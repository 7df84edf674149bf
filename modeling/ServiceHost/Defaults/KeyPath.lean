import ServiceHost.Defaults.Value
import ServiceHost.Input.Parser
import ServiceHost.Text.Blank

/-!
# Paths to settings

A path names a setting by its key, and a place inside the setting by further keys and indices.

## Main definitions

* `KeyPath` : a key with the steps after it.
* `KeyPath.ofText?` : the path that a text denotes.
* `Value.Table.assign` : the table with a value at the end of a path.
-/

namespace ServiceHost

/-- A step into a value. -/
inductive KeyStep where
  /-- The field of a table. -/
  | field (key : String)
  /-- The item of a sequence, counted from the end if negative. -/
  | index (index : Int)
  deriving DecidableEq, Repr

/-- A path to a setting and into it. -/
structure KeyPath where
  /-- The key of the setting. -/
  key : String
  /-- The steps into the setting. -/
  steps : List KeyStep
  deriving DecidableEq, Repr

namespace KeyPath

open ServiceHost.Parser

/-- A character of a key in a path. -/
def isKeyChar (c : Char) : Bool := c.isAlphanum || c == ' ' || c == '_' || c == '-'

/-- Reads a key. -/
def keyParser : Parser Char String := String.ofList <$> (satisfy isKeyChar).many1

/-- Reads blanks. -/
def blanks : Parser Char Unit := (fun _ ↦ ()) <$> (satisfy Text.isBlank).many

/-- An index fits 64 bits with a sign. -/
def isIndex (n : Int) : Bool := decide (-(Int.pow 2 63) ≤ n ∧ n < Int.pow 2 63)

/-- Reads an index: digits, after a minus sign if it is negative. -/
def indexParser : Parser Char Int := filter isIndex do
  let minus ← (satisfy (· == '-')).optional
  let digits ← (satisfy Char.isDigit).many1
  let magnitude : Int := digits.foldl (fun n c ↦ 10 * n + (c.toNat - '0'.toNat)) 0
  return if minus.isSome then -magnitude else magnitude

/-- Reads a step. -/
def stepParser : Parser Char KeyStep :=
  (do
    let _ ← satisfy (· == '.')
    let key ← keyParser
    return .field key) <|>
  (do
    let _ ← satisfy (· == '[')
    blanks
    let index ← indexParser
    blanks
    let _ ← satisfy (· == ']')
    return .index index)

/-- Reads a path up to the end of the text. -/
def parser : Parser Char KeyPath := do
  let key ← keyParser
  let steps ← stepParser.many
  atEnd
  return ⟨key, steps⟩

/-- The path that a text denotes. -/
def ofText? (text : String) : Option KeyPath :=
  (parser.run (Cursor.start text.toList)).map Match.value

/-- The path that a key of a file denotes. A key that is no path names a setting as it is. -/
def ofKey (key : String) : KeyPath := (ofText? key).getD ⟨key, []⟩

end KeyPath

/-- The table with a value at the end of a path. A table is merged into what stands there, and a
value on the way that is no table or no sequence becomes one. -/
def Value.Table.assign (value : Value) (key : String) : List KeyStep → Table → Table
  | [], target => target.merge key value
  | .field next :: steps, target =>
    let key := Text.lower key
    target.set key (.table (assign value next steps ((target.get? key).getD .null).fields))
  | .index _ :: _, target => target.set (Text.lower key) .sequence

end ServiceHost
