import ServiceHost.Input.Parser
import ServiceHost.Text.Blank

/-!
# Characters and gaps of documents

Words of a document are separated by blanks. Inside brackets they may be separated by line ends
and comments as well.
-/

namespace ServiceHost.Document

open ServiceHost.Parser

/-- Reads the given character. -/
def exactly (c : Char) : Parser Char Char := satisfy (· == c)

/-- A character that may stand in a string or a comment. -/
def isText (c : Char) : Bool := c == '\t' || (c.toNat ≥ 32 && c.toNat != 127)

/-- Reads a blank. -/
def blank : Parser Char Unit := (fun _ ↦ ()) <$> satisfy Text.isBlank

/-- Reads blanks. -/
def blanks : Parser Char Unit := (fun _ ↦ ()) <$> blank.many

/-- Reads the end of a line. -/
def newline : Parser Char Unit := do
  let _ ← (exactly '\r').optional
  let _ ← exactly '\n'
  return ()

/-- Reads a comment. -/
def comment : Parser Char Unit := do
  let _ ← exactly '#'
  let _ ← (satisfy isText).many
  return ()

/-- Reads blanks and ends of lines. -/
def space : Parser Char Unit := (fun _ ↦ ()) <$> (blank <|> newline).many

/-- Reads blanks, comments and ends of lines. -/
def gap : Parser Char Unit := do
  blanks
  let _ ← (do
    let _ ← comment.optional
    newline
    blanks : Parser Char Unit).many
  return ()

end ServiceHost.Document
