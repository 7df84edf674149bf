import ServiceHost.Defaults.Document.Entry
import ServiceHost.Defaults.Document.Moment
import ServiceHost.Defaults.Document.Quoted

/-!
# Lines of documents

A line assigns a value to a key, names the table to which the following lines belong, or is
empty; a comment may follow.

## Main definitions

* `value` : the parser of values.
* `Line` : what a line says.
* `lines` : the parser of all lines.
-/

namespace ServiceHost.Document

open ServiceHost.Parser

/-! ### Keys -/

/-- How deep brackets may be nested, and how many parts a key may have. -/
def maxDepth : Nat := 79

/-- Reads one part of a key, bare or as a string. -/
def simpleKey : Parser Char String :=
  String.ofList <$> (satisfy fun c ↦ c.isAlphanum || c == '_' || c == '-').many1 <|> shortString

/-- Reads a key with points between its parts. -/
def key : Parser Char (List String) := filter (fun parts ↦ decide (parts.length ≤ maxDepth)) do
  let first ← simpleKey
  let following ← (do
    blanks
    let _ ← exactly '.'
    blanks
    simpleKey : Parser Char String).many
  return first :: following

/-! ### Values -/

/-- Reads a truth value or a number. -/
def scalar : Parser Char Value :=
  (satisfy fun c ↦ c.isAlphanum || c == '_' || c == '+' || c == '-' || c == '.').many1.filterMap
    Scalar.ofWord?

/-- Reads a value without brackets. -/
def simpleValue : Parser Char Entry :=
  (fun text ↦ .scalar (.string text)) <$> (longString <|> shortString) <|>
    .moment <$> Moment.parser <|> .scalar <$> scalar

/-- Reads items that the separator divides, perhaps none. -/
def separated {β : Type} (separator : Parser Char Unit) (item : Parser Char β) :
    Parser Char (List β) := do
  match ← item.optional with
  | none => return []
  | some first => return first :: (← (separator *> item).many)

/-- Reads a sequence in square brackets. A comma may follow the last item. -/
def sequence (item : Parser Char Entry) : Parser Char Entry := do
  let _ ← exactly '['
  gap
  let items ← separated (gap *> (fun _ ↦ ()) <$> exactly ',' <* gap) item
  gap
  if !items.isEmpty then
    let _ ← (exactly ',').optional
    gap
  let _ ← exactly ']'
  return .items items

/-- Reads the key and the value of an assignment. -/
def assignment (item : Parser Char Entry) : Parser Char (List String × Entry) := do
  let path ← key
  blanks
  let _ ← exactly '='
  blanks
  let value ← item
  return (path, value)

/-- Reads a table in braces. It stands on one line but for what its values contain. -/
def inlineTable (item : Parser Char Entry) : Parser Char Entry := filterMap Entry.ofAssignments? do
  let _ ← exactly '\x7b'
  blanks
  let assignments ← separated (blanks *> (fun _ ↦ ()) <$> exactly ',' <* blanks) (assignment item)
  blanks
  let _ ← exactly '\x7d'
  return assignments

/-- Reads a value in which brackets are nested up to the given depth. -/
def value : Nat → Parser Char Entry
  | 0 => simpleValue
  | depth + 1 => simpleValue <|> sequence (value depth) <|> inlineTable (value depth)

/-! ### Lines -/

/-- What a line of a document says. -/
inductive Line where
  /-- The line says nothing. -/
  | blank
  /-- The following lines belong to this table. -/
  | table (path : List String)
  /-- The following lines belong to one more table of this sequence. -/
  | item (path : List String)
  /-- The key has this value. -/
  | assignment (path : List String) (value : Entry)
  deriving Repr

/-- Reads a key between blanks. -/
def headerKey : Parser Char (List String) := blanks *> key <* blanks

/-- Reads a header: the name of a table in brackets, or of a sequence of tables in double
brackets. -/
def header : Parser Char Line :=
  (do
    let _ ← exactly '['
    let _ ← exactly '['
    let path ← headerKey
    let _ ← exactly ']'
    let _ ← exactly ']'
    return .item path) <|>
  (do
    let _ ← exactly '['
    let path ← headerKey
    let _ ← exactly ']'
    return .table path)

/-- Reads a line up to its end. -/
def line : Parser Char Line := do
  blanks
  let content ← header <|>
    (fun (path, value) ↦ .assignment path value) <$> assignment (value maxDepth) <|> pure .blank
  blanks
  let _ ← comment.optional
  return content

/-- Reads all lines of a document. -/
def lines : Parser Char (List Line) := do
  let complete ← (line <* newline).many
  let last ← line
  atEnd
  return complete ++ [last]

end ServiceHost.Document
