import ServiceHost.Input.Parser
import ServiceHost.Token.Basic
import ServiceHost.Token.Key

/-!
# Reading tokens from a text

At the start of a token four forms are tried in this order.

* A definition whose value stands apart: `-key value`, for the definition keys only.
* A definition whose value follows a colon: `-key:value`, where the value may be empty.
* A switch: `-key` or `--key`, up to a blank or the end.
* An argument.

A value or an argument that begins with a quote extends to the next quote or to the end of the
text, without escapes. Any other one extends to the next blank.

## Main definitions

* `Lexer.nextToken` : the parser of one token and the blanks before it.
* `Token.tokenize` : the tokens of a text with the ranges they were read from.
-/

namespace ServiceHost

namespace Lexer

open ServiceHost.Parser ServiceHost.Text

/-- Reads the given character. -/
def exactly (c : Char) : Parser Char Char := satisfy (· == c)

/-- Reads a text in quotes. The closing quote may be missing at the end. -/
def quoted : Parser Char String := do
  let _ ← exactly '"'
  let chars ← (satisfy (· != '"')).many
  let _ ← (exactly '"').optional
  return String.ofList chars

/-- Reads one or more characters up to a blank. -/
def bare : Parser Char String := String.ofList <$> (satisfy fun c ↦ !isBlank c).many1

/-- Reads a key as far as it extends. -/
def key : Parser Char String := do
  let first ← satisfy Token.isKeyStart
  let following ← (satisfy Token.isKeyChar).many
  return String.ofList (first :: following)

/-- Reads a text in quotes or a text up to a blank. -/
def value : Parser Char String := quoted <|> bare

/-- Reads a text in quotes or a text up to a blank, which may be empty. -/
def inlineValue : Parser Char String :=
  quoted <|> String.ofList <$> (satisfy fun c ↦ !isBlank c).many

/-- Reads a definition whose value stands apart from its key. -/
def separateDefinition (keys : List String) : Parser Char Token := do
  let _ ← exactly '-'
  let name ← key.filter keys.contains
  let _ ← (satisfy isBlank).many1
  let text ← value
  return .definition name text

/-- Reads a definition whose value follows a colon. -/
def inlineDefinition : Parser Char Token := do
  let _ ← exactly '-'
  let name ← key
  let _ ← exactly ':'
  let text ← inlineValue
  return .definition name text

/-- Reads a switch with one hyphen or two. -/
def switch : Parser Char Token := do
  let _ ← exactly '-'
  let _ ← (exactly '-').optional
  let name ← key
  let _ ← boundary isBlank
  return .switch name true

/-- Reads an argument. -/
def argument : Parser Char Token := .argument <$> value

/-- Reads one token in any of the four forms. -/
def token (keys : List String) : Parser Char Token :=
  separateDefinition keys <|> inlineDefinition <|> switch <|> argument

/-- Reads blanks and the token after them. -/
def nextToken (keys : List String) : Parser Char (Spanned Token) := do
  let _ ← (satisfy isBlank).many
  (token keys).spanned

end Lexer

/-- The tokens of a text under the given definition keys, with the ranges of bytes that they
were read from. -/
def Token.tokenize (keys : List String) (text : String) : List (Spanned Token) :=
  ((Lexer.nextToken keys).iterate (Cursor.start text.toList)).value

/-- The tokens of a text under the given definition keys. -/
def Token.read (keys : List String) (text : String) : List Token :=
  (Token.tokenize keys text).map Spanned.value

end ServiceHost
