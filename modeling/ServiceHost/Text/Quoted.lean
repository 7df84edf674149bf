import ServiceHost.Text.Visible

/-!
# Quoted texts

A quoted text stands between double quotes on one line. Quotes, backslashes and line breaks are
escaped with a backslash, and every other character that does not show on its own is written
by its code point.
-/

namespace ServiceHost.Text

/-- The hexadecimal digits of a number, in lower case. -/
def hexDigits (n : Nat) : String := String.ofList (Nat.toDigits 16 n)

/-- A character in a quoted text. -/
def escape (c : Char) : String :=
  match c with
  | '\x00' => "\\0"
  | '\t' => "\\t"
  | '\r' => "\\r"
  | '\n' => "\\n"
  | '"' => "\\\""
  | '\\' => "\\\\"
  | c => if isVisible c then c.toString else "\\u\x7b" ++ hexDigits c.toNat ++ "\x7d"

/-- The text in quotes. -/
def quoted (text : String) : String := "\"" ++ String.join (text.toList.map escape) ++ "\""

end ServiceHost.Text
