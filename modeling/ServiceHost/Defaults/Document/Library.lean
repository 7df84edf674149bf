import ServiceHost.Defaults.Conversion
import ServiceHost.Defaults.Document
import ServiceHost.Defaults.KeyPath
import ServiceHost.Defaults.Library
import ServiceHost.FileTree

/-!
# A library of settings documents

The library with which the program loads its defaults. Sources are layered in the order in which
they were added. Overrides are known by their keys, and a rule that belongs to the library arranges
them before they are layered over the sources. A key is a path, at whose end the value is merged.
Loading does not depend on this library: any other one that makes the same promises may take its
place.

## Main definitions

* `Document.find` : the files to which paths lead.
* `Document.library` : the library.
-/

namespace ServiceHost.Document

/-! ### Files -/

/-- The paths at which a file is looked for: the given one, and the one with the ending of
settings documents. -/
def candidates (path : String) : List String :=
  path :: (FileTree.withEnding? ".toml" path).toList

/-- The text of the file to which a path leads. The ending of its name may be left out. -/
def find (texts : Files) : Files := fun path ↦ (candidates path).findSome? texts

/-! ### Layers -/

/-- The sources and overrides to be layered. -/
structure Layers where
  /-- The sources in the order in which they were added. -/
  sources : List SettingsSource := []
  /-- The overrides in the order in which they were set. -/
  overrides : List (String × Value) := []

/-- Adds a source. -/
def Layers.addSource (l : Layers) (source : SettingsSource) : Layers :=
  { l with sources := l.sources ++ [source] }

/-- Sets one setting. The key has to be a path. An override takes the place of an earlier one with
the same key. -/
def Layers.setOverride (l : Layers) (key : String) (value : Value) : Except DefaultsError Layers :=
  match KeyPath.ofText? key with
  | none => .error .invalidKey
  | some _ =>
    let others := l.overrides.filter fun override ↦ override.1 ≠ key
    .ok { l with overrides := others ++ [(key, value)] }

/-- The fields of a document. -/
def fieldsOf (text : String) : Except DefaultsError Value.Table :=
  match read? text with
  | none => .error .malformedFile
  | some fields => .ok fields

/-- The fields of a source. A missing file has none if it is optional. -/
def readSource (files : Files) : SettingsSource → Except DefaultsError Value.Table
  | .document text => fieldsOf text
  | .file path required =>
    match files path with
    | none => if required then .error .unreadableFile else .ok []
    | some text => fieldsOf text

/-- The table with a value at the path that a key denotes. -/
def assign (target : Value.Table) (key : String) (value : Value) : Value.Table :=
  Value.Table.assign value (KeyPath.ofKey key).key (KeyPath.ofKey key).steps target

/-- The table with fields layered over it. -/
def layer (target fields : Value.Table) : Value.Table :=
  fields.foldl (fun target (key, value) ↦ assign target key value) target

/-- The table with the fields of a source layered over it. -/
def layerSource (files : Files) (target : Value.Table) (source : SettingsSource) :
    Except DefaultsError Value.Table :=
  return layer target (← readSource files source)

/-- The sources layered over each other, and the arranged overrides layered over them. -/
def build (arrange : List (String × Value) → List (String × Value)) (files : Files) (l : Layers) :
    Except DefaultsError Value.Table :=
  return layer (← l.sources.foldlM (layerSource files) []) (arrange l.overrides)

/-- The library of settings documents with a rule that arranges overrides. -/
abbrev library (arrange : List (String × Value) → List (String × Value)) : SettingsLibrary where
  Value := Value
  ofText := .string
  Builder := Layers
  empty := {}
  addSource := Layers.addSource
  setOverride := Layers.setOverride
  Layered := Value.Table
  build := build arrange
  toDefaults := Value.Table.toDefaults

end ServiceHost.Document
