import ServiceHost.Defaults.Document.Moment
import ServiceHost.Defaults.Value

/-!
# Entries of documents

A table of a document grows line by line. A header opens the table that it names, and a key with
points leads through tables on the way to its value. What may still be added to a table depends
on how the table came about:

* a table that a header names is opened once, and no key with points leads into it;
* a table that a header only passes on its way may be named by a later header;
* a table that a key with points passes takes values only from further keys with points;
* of the tables that form a sequence the last one is open;
* a table that is written as a value is complete.

A table whose first key is the reserved key of moments stands for the moment under it, whatever
else it holds.

## Main definitions

* `Entry` : a written value or a growing table.
* `Entry.insert?` : the entries with a value at the end of a key.
* `Entry.openTable?`, `Entry.openItem?` : the effect of a header.
* `Entry.toValue?` : the value that an entry denotes.
-/

namespace ServiceHost.Document

/-- How a table came about. -/
inductive Origin where
  /-- A header names the table. -/
  | named
  /-- A header names a table inside the table. -/
  | passed
  /-- A key with points leads into the table. -/
  | keyed
  deriving DecidableEq, Repr

/-- What a field of a growing table holds. -/
inductive Entry where
  /-- A value without parts. -/
  | scalar (value : Value)
  /-- A moment. -/
  | moment (moment : Moment)
  /-- A sequence that is written as a value. -/
  | items (entries : List Entry)
  /-- A table that is written as a value. -/
  | closed (entries : List (String × Entry))
  /-- A table to which entries may be added. -/
  | table (origin : Origin) (entries : List (String × Entry))
  /-- A sequence of tables: the entries of the last one, and the ones before it. -/
  | tables (last : List (String × Entry)) (earlier : List Entry)
  deriving Repr

namespace Entry

/-- The entries of a growing table. -/
abbrev Entries := Fields Entry

/-! ### Growth -/

/-- The entries with a new value at the end of a key. The table at the end has to be open to
this key, and a value that stands there is not replaced. -/
def insert? (value : Entry) (isOpen : Bool) : List String → Entries → Option Entries
  | [], _ => none
  | [key], entries =>
    if isOpen && (entries.get? key).isNone then some (entries.set key value) else none
  | key :: path, entries =>
    match (entries.get? key).getD (.table .keyed []) with
    | .table .keyed inner =>
      (insert? value true path inner).map fun inner ↦ entries.set key (.table .keyed inner)
    | .table .passed inner =>
      (insert? value false path inner).map fun inner ↦ entries.set key (.table .passed inner)
    | .tables last earlier =>
      (insert? value false path last).map fun last ↦ entries.set key (.tables last earlier)
    | _ => none

/-- The table that is written as the given assignments. -/
def ofAssignments? (assignments : List (List String × Entry)) : Option Entry :=
  (assignments.foldlM (fun entries (key, value) ↦ insert? value true key entries) []).map .closed

/-- The entries with a change of the table at the end of a path of headers. The change is given
the last key. A table that is missing on the way is added. -/
def alter? (change : String → Entries → Option Entries) : List String → Entries → Option Entries
  | [], _ => none
  | [key], entries => change key entries
  | key :: path, entries =>
    match (entries.get? key).getD (.table .passed []) with
    | .table origin inner =>
      (alter? change path inner).map fun inner ↦ entries.set key (.table origin inner)
    | .tables last earlier =>
      (alter? change path last).map fun last ↦ entries.set key (.tables last earlier)
    | _ => none

/-- The entries in which a table is named by a header. The table comes last. -/
def openTable? : List String → Entries → Option Entries :=
  alter? fun key entries ↦
    match entries.get? key with
    | none => some (entries.set key (.table .named []))
    | some (.table .passed inner) => some ((entries.erase key).set key (.table .named inner))
    | some _ => none

/-- The entries in which a sequence of tables has one more table. -/
def openItem? : List String → Entries → Option Entries :=
  alter? fun key entries ↦
    match entries.get? key with
    | none => some (entries.set key (.tables [] []))
    | some (.tables last earlier) => some (entries.set key (.tables [] (.closed last :: earlier)))
    | some _ => none

/-- The entries with a new value at the end of a key in the table of a header. An empty path
stands for the document itself. -/
def assign? (current key : List String) (value : Entry) (entries : Entries) : Option Entries :=
  let assigned : Entries → Option Entries := insert? value true key
  match current with
  | [] => assigned entries
  | current =>
    alter? (fun key entries ↦
      match entries.get? key with
      | some (.table origin inner) =>
        (assigned inner).map fun inner ↦ entries.set key (.table origin inner)
      | some (.tables last earlier) =>
        (assigned last).map fun last ↦ entries.set key (.tables last earlier)
      | _ => none) current entries

/-! ### Meaning -/

/-- The text of a string. -/
def text? : Entry → Option String
  | .scalar (.string text) => some text
  | _ => none

mutual

/-- The value that an entry denotes, if every moment under the reserved key is one. -/
def toValue? : Entry → Option Value
  | .scalar value => some value
  | .moment m => some (.string m.render)
  | .items entries => if denote entries then some .sequence else none
  | .closed entries => tableValue? entries
  | .table _ entries => tableValue? entries
  | .tables last earlier =>
    if (tableValue? last).isSome && denote earlier then some .sequence else none

/-- The value that a table denotes: a moment if the first key is the reserved one. -/
def tableValue? : List (String × Entry) → Option Value
  | [] => some (.table [])
  | (key, entry) :: rest =>
    if key = Moment.key then
      (entry.text?.bind Moment.ofText?).map fun m ↦ .string m.render
    else do return .table ((key, ← toValue? entry) :: (← toFields? rest))

/-- The fields that entries denote. -/
def toFields? : List (String × Entry) → Option Value.Table
  | [] => some []
  | (key, entry) :: rest => do return (key, ← toValue? entry) :: (← toFields? rest)

/-- Every entry denotes a value. -/
def denote : List Entry → Bool
  | [] => true
  | entry :: rest => (toValue? entry).isSome && denote rest

end

end Entry

end ServiceHost.Document
