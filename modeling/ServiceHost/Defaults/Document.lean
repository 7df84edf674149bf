import ServiceHost.Defaults.Document.Line

/-!
# Settings documents

A document is a sequence of lines. Headers open its tables, and the assignments after a header
belong to the table that the header opened.

## Main definitions

* `Document.State` : what the lines so far amount to.
* `Document.read?` : the table that a text denotes.
-/

namespace ServiceHost.Document

/-- What the lines so far amount to. -/
structure State where
  /-- The entries of the document. -/
  entries : Entry.Entries := []
  /-- The path of the table to which the following lines belong. -/
  current : List String := []

/-- The effect of one line. -/
def State.step (s : State) : Line → Option State
  | .blank => some s
  | .table path => (Entry.openTable? path s.entries).map fun entries ↦ ⟨entries, path⟩
  | .item path => (Entry.openItem? path s.entries).map fun entries ↦ ⟨entries, path⟩
  | .assignment path value =>
    (Entry.assign? s.current path value s.entries).map fun entries ↦ { s with entries }

/-- The text without a mark of the byte order at its start. -/
def withoutMark (chars : List Char) : List Char :=
  if chars.head? = some '\ufeff' then chars.drop 1 else chars

/-- The value that the text of a document denotes. -/
def value? (text : String) : Option Value := do
  let found ← lines.run (Cursor.start (withoutMark text.toList))
  let state ← found.value.foldlM State.step ⟨[], []⟩
  Entry.tableValue? state.entries

/-- The table that the text of a document denotes. A document that stands for a moment has
none. -/
def read? (text : String) : Option Value.Table :=
  match value? text with
  | some (.table fields) => some fields
  | _ => none

end ServiceHost.Document
