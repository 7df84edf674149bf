import ServiceHost.Text.Lowercase

/-!
# Values of settings documents

A document holds scalars, sequences and tables. Layers of documents are merged: a table is
merged field by field into the table that stands in its place, and every other value replaces
what was there. Keys are compared in small letters.

## Main definitions

* `Fields` : fields by their keys.
* `Value` : a value of a document.
* `Value.Table.merge` : one more field merged into a table.
-/

namespace ServiceHost

/-- Fields in the order of the first appearance of their keys. -/
abbrev Fields (α : Type) := List (String × α)

namespace Fields

variable {α : Type}

/-- What the field with the key holds. -/
def get? (fields : Fields α) (key : String) : Option α := fields.lookup key

/-- The fields of which the one with the key holds the given content. -/
def set (fields : Fields α) (key : String) (content : α) : Fields α :=
  match fields with
  | [] => [(key, content)]
  | (first, old) :: rest =>
    if first == key then (key, content) :: rest else (first, old) :: Fields.set rest key content

/-- The fields without the one with the key. -/
def erase (fields : Fields α) (key : String) : Fields α := fields.filter fun (k, _) ↦ k != key

end Fields

/-- A value of a settings document. No setting is a sequence, so the items of one are not
kept. -/
inductive Value where
  | null
  | boolean (value : Bool)
  | integer (value : Int)
  | float (value : Float)
  | string (text : String)
  | sequence
  | table (fields : List (String × Value))
  deriving Repr, Inhabited

namespace Value

/-- The fields of a table. -/
abbrev Table := Fields Value

/-- The fields of a table. Any other value has none. -/
def fields : Value → Table
  | table fields => fields
  | _ => []

mutual

/-- The table with one more field merged into it. -/
def Table.merge (target : Table) (key : String) : Value → Table
  | .table fields =>
    let key := Text.lower key
    target.set key (mergeFields ((target.get? key).getD (.table [])) fields)
  | value => target.set (Text.lower key) value

/-- A value with the fields of a table merged into it. A value that is no table gives way to the
first field. -/
def mergeFields (target : Value) : List (String × Value) → Value
  | [] => target
  | (key, value) :: rest => mergeFields (.table (Table.merge target.fields key value)) rest

end

end Value

end ServiceHost
