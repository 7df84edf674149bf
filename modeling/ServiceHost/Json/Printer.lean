import ServiceHost.Decimal.Layout
import ServiceHost.Json.Basic

/-!
# Printing JSON

A JSON value is printed on one line without blanks, or on several lines with two blanks of
indentation for each level. A control character of a text is escaped, by its short form if it
has one.

## Main definitions

* `Json.compact` : the value on one line.
* `Json.pretty` : the value on several lines.
-/

namespace ServiceHost.Json

/-- The lower-case hexadecimal digit of a number below sixteen. -/
def hexDigit (n : Nat) : Char := Nat.digitChar n

/-- A character in a JSON text. -/
def escape (c : Char) : String :=
  match c with
  | '"' => "\\\""
  | '\\' => "\\\\"
  | '\x08' => "\\b"
  | '\x0c' => "\\f"
  | '\n' => "\\n"
  | '\r' => "\\r"
  | '\t' => "\\t"
  | c =>
    if c.toNat < 32 then
      "\\u00" ++ String.ofList [hexDigit (c.toNat / 16), hexDigit (c.toNat % 16)]
    else c.toString

/-- A text between quotes. -/
def quote (text : String) : String := "\"" ++ String.join (text.toList.map escape) ++ "\""

mutual

/-- The value on one line. -/
def compact : Json → String
  | .null => "null"
  | .bool value => if value then "true" else "false"
  | .number text => text
  | .float value => Decimal.renderFloat .report value
  | .string text => quote text
  | .array items => "[" ++ ",".intercalate (compactItems items) ++ "]"
  | .object fields => "\x7b" ++ ",".intercalate (compactFields fields) ++ "\x7d"

/-- Each item on one line. -/
def compactItems : List Json → List String
  | [] => []
  | item :: items => item.compact :: compactItems items

/-- Each field on one line. -/
def compactFields : List (String × Json) → List String
  | [] => []
  | (key, value) :: fields => (quote key ++ ":" ++ value.compact) :: compactFields fields

end

/-- The start of a line at a level of indentation. -/
def lineBreak (level : Nat) : String := "\n" ++ "".pushn ' ' (2 * level)

/-- The parts on lines of their own between two brackets. -/
def block (level : Nat) (opening closing : String) (parts : List String) : String :=
  if parts.isEmpty then opening ++ closing
  else opening ++ lineBreak (level + 1) ++ ("," ++ lineBreak (level + 1)).intercalate parts ++
    lineBreak level ++ closing

mutual

/-- The value on several lines, begun at a level of indentation. -/
def prettyAt (level : Nat) : Json → String
  | .null => "null"
  | .bool value => if value then "true" else "false"
  | .number text => text
  | .float value => Decimal.renderFloat .report value
  | .string text => quote text
  | .array items => block level "[" "]" (prettyItems (level + 1) items)
  | .object fields => block level "\x7b" "\x7d" (prettyFields (level + 1) fields)

/-- Each item on several lines. -/
def prettyItems (level : Nat) : List Json → List String
  | [] => []
  | item :: items => item.prettyAt level :: prettyItems level items

/-- Each field on several lines. -/
def prettyFields (level : Nat) : List (String × Json) → List String
  | [] => []
  | (key, value) :: fields =>
    (quote key ++ ": " ++ value.prettyAt level) :: prettyFields level fields

end

/-- The value on several lines. -/
def pretty (value : Json) : String := value.prettyAt 0

end ServiceHost.Json
