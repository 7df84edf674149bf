import ServiceHost.Defaults.Document.Basic
import ServiceHost.Defaults.Scalar

/-!
# Strings of documents

A string stands between two quotes of one kind on one line, or between three and three on any
number of lines. Between double quotes a backslash escapes what follows it; between single
quotes every character stands for itself.

A long string does not contain the line break that follows its opening quotes. One or two quotes
may stand anywhere in it, also before the closing ones.

## Main definitions

* `shortString` : the strings on one line.
* `longString` : the strings on any number of lines.
-/

namespace ServiceHost.Document

open ServiceHost.Parser

/-! ### Escapes -/

/-- Reads a given number of hexadecimal digits. -/
def hexNumber : Nat → Parser Char Nat
  | 0 => return 0
  | places + 1 => do
    let high ← any.filterMap (Scalar.digit? 16)
    let low ← hexNumber places
    return high * 16 ^ places + low

/-- Reads a code point that is a character. -/
def codePoint (places : Nat) : Parser Char Char :=
  (hexNumber places).filterMap fun n ↦ if n.isValidChar then some (Char.ofNat n) else none

/-- The characters that a backslash and a letter denote. -/
def escapes : List (Char × Char) :=
  [('b', '\x08'), ('t', '\t'), ('n', '\n'), ('f', '\x0c'), ('r', '\r'), ('"', '"'), ('\\', '\\')]

/-- Reads an escaped character. -/
def escape : Parser Char Char := do
  let _ ← exactly '\\'
  let letter ← any
  match letter with
  | 'u' => codePoint 4
  | 'U' => codePoint 8
  | letter =>
    match escapes.lookup letter with
    | some c => return c
    | none => fail

/-! ### Strings on one line -/

/-- Reads a character between double quotes that is not escaped. -/
def plainChar : Parser Char Char := satisfy fun c ↦ isText c && c != '"' && c != '\\'

/-- Reads a character between single quotes. -/
def literalChar : Parser Char Char := satisfy fun c ↦ isText c && c != '\''

/-- Reads a string between two quotes. -/
def between (quote : Char) (item : Parser Char Char) : Parser Char String := do
  let _ ← exactly quote
  let chars ← item.many
  let _ ← exactly quote
  return String.ofList chars

/-- Reads a string on one line. -/
def shortString : Parser Char String :=
  between '"' (plainChar <|> escape) <|> between '\'' literalChar

/-! ### Strings on any number of lines -/

/-- Reads the end of a line inside a string. It is a line feed, however it is written. -/
def lineBreak : Parser Char Char := (fun _ ↦ '\n') <$> newline

/-- Reads a backslash at the end of a line and all space after it, which stand for nothing. -/
def continuation : Parser Char (List Char) := do
  let _ ← exactly '\\'
  blanks
  newline
  space
  return []

/-- Reads a part of a long string between double quotes. -/
def longPart : Parser Char (List Char) :=
  List.singleton <$> (plainChar <|> lineBreak) <|> continuation <|> List.singleton <$> escape

/-- Reads a part of a long string between single quotes. -/
def literalPart : Parser Char (List Char) := List.singleton <$> (literalChar <|> lineBreak)

/-- Reads three quotes. -/
def tripleQuote (quote : Char) : Parser Char Unit := do
  let _ ← exactly quote
  let _ ← exactly quote
  let _ ← exactly quote
  return ()

/-- Reads one or two quotes and the part after them. -/
def quotesInside (quote : Char) (part : Parser Char (List Char)) : Parser Char (List Char) := do
  let first ← exactly quote
  let second ← (exactly quote).optional
  let rest ← part
  return first :: (second.toList ++ rest)

/-- Reads the quotes at the end of a long string. All but three of them belong to it. -/
def lastQuotes (quote : Char) : Parser Char (List Char) :=
  (exactly quote).many.filterMap fun quotes ↦
    if 3 ≤ quotes.length ∧ quotes.length ≤ 5 then some (quotes.drop 3) else none

/-- Reads a string between three quotes and three. -/
def betweenTriple (quote : Char) (part : Parser Char (List Char)) : Parser Char String := do
  tripleQuote quote
  let _ ← newline.optional
  let parts ← (part <|> quotesInside quote part).many
  let quotes ← lastQuotes quote
  return String.ofList (parts.flatten ++ quotes)

/-- Reads a string on any number of lines. -/
def longString : Parser Char String :=
  betweenTriple '"' longPart <|> betweenTriple '\'' literalPart

end ServiceHost.Document
