import Mathlib.Data.List.Induction
import Mathlib.Data.List.Pairwise
import ServiceHost.Proofs.Defaults.Library

/-!
# Layers of defaults

Files and overrides are added to a loader in any order. The library keeps them apart: the built-in
defaults and the files in the order in which they were added, and the overrides, of which the last
one is left among those with the very same key.

## Main definitions

* `Layer`, `Loader.loadLayers` : layers, and the defaults of layers that were added in order.
* `lastOfEach` : the last override for each key.
* `Loader.Collects` : what the library has collected of layers.

## Main results

* `Loader.exists_add` : what one more layer adds to a loader.
* `Loader.exists_ofLayers` : layers can be added, and are collected.
-/

namespace ServiceHost

open ServiceHost.Text

/-! ### Layers -/

/-- A layer that is put over the built-in defaults. -/
inductive Layer (α : Type) where
  /-- A file that has to be there. -/
  | file (path : String)
  /-- A file that may be missing. -/
  | optionalFile (path : String)
  /-- A value for the setting with the key. -/
  | override (key : String) (value : α)

namespace Layer

variable {α : Type}

/-- The file of a layer. -/
def source? : Layer α → Option SettingsSource
  | file path => some (.file path true)
  | optionalFile path => some (.file path false)
  | override _ _ => none

/-- The override of a layer. -/
def override? : Layer α → Option (String × α)
  | override key value => some (key, value)
  | _ => none

/-- The keys of overrides are plain names. -/
def IsPlain (layer : Layer α) : Prop := ∀ override ∈ layer.override?, IsPlainName override.1

instance : DecidablePred (IsPlain : Layer α → Prop) := fun layer ↦
  inferInstanceAs (Decidable (∀ override ∈ layer.override?, IsPlainName override.1))

end Layer

namespace Loader

variable {library : SettingsLibrary}

/-- The loader with one more layer. -/
def add (l : Loader library) : Layer library.Value → Except DefaultsError (Loader library)
  | .file path => .ok (l.withFile path)
  | .optionalFile path => .ok (l.withOptionalFile path)
  | .override key value => l.setOverride key value

/-- The loader to which the layers were added in order. -/
def ofLayers (layers : List (Layer library.Value)) : Except DefaultsError (Loader library) :=
  layers.foldlM add new

/-- The defaults of layers that were added in order. -/
def loadLayers (files : Files) (layers : List (Layer library.Value)) :
    Except DefaultsError Defaults := do
  (← ofLayers layers).load files

theorem ofLayers_concat (layers : List (Layer library.Value)) (last : Layer library.Value) :
    ofLayers (layers ++ [last]) = (ofLayers layers).bind fun l ↦ l.add last := by
  rw [ofLayers, List.foldlM_append, ← ofLayers]
  cases ofLayers layers with
  | error error => rfl
  | ok l => exact bind_pure (l.add last)

end Loader

/-! ### Overrides -/

/-- Of the overrides with the very same key, the last one. -/
def lastOfEach {α : Type} (overrides : List (String × α)) : List (String × α) :=
  overrides.pwFilter fun override later ↦ override.1 ≠ later.1

section LastOfEach

variable {α : Type}

theorem lastOfEach_cons (override : String × α) (overrides : List (String × α)) :
    lastOfEach (override :: overrides) =
      if ∀ later ∈ overrides, override.1 ≠ later.1 then override :: lastOfEach overrides
      else lastOfEach overrides := by
  have htrans {x y z : String × α} (hne : x.1 ≠ z.1) : x.1 ≠ y.1 ∨ y.1 ≠ z.1 :=
    not_and_or.mp fun ⟨hxy, hyz⟩ ↦ hne (hxy.trans hyz)
  have hiff : (∀ later ∈ lastOfEach overrides, override.1 ≠ later.1) ↔
      ∀ later ∈ overrides, override.1 ≠ later.1 :=
    List.forall_mem_pwFilter (R := fun a b : String × α ↦ a.1 ≠ b.1) htrans override overrides
  split_ifs with h
  · exact List.pwFilter_cons_of_pos (hiff.mpr h)
  · exact List.pwFilter_cons_of_neg (mt hiff.mp h)

/-- A further override takes the place of the one with the same key. -/
theorem lastOfEach_concat (overrides : List (String × α)) (last : String × α) :
    lastOfEach (overrides ++ [last]) =
      (lastOfEach overrides).filter (fun override ↦ override.1 ≠ last.1) ++ [last] := by
  induction overrides with
  | nil => rfl
  | cons override overrides ih =>
    rw [List.cons_append, lastOfEach_cons, lastOfEach_cons, ih]
    by_cases hlast : override.1 = last.1
    · rw [if_neg fun h ↦ h last (by simp) hlast]
      split_ifs
      · rw [List.filter_cons_of_neg (by simpa using hlast)]
      · rfl
    · have hiff : (∀ later ∈ overrides ++ [last], override.1 ≠ later.1) ↔
          ∀ later ∈ overrides, override.1 ≠ later.1 := by
        simp only [List.forall_mem_append, List.forall_mem_singleton]
        exact and_iff_left hlast
      simp only [hiff]
      split_ifs
      · rw [List.filter_cons_of_pos (by simpa using hlast), List.cons_append]
      · rfl

/-- Of overrides that are all spelled alike, the last one is left. -/
theorem lastOfEach_of_forall_eq {overrides : List (String × α)}
    (h : ∀ override ∈ overrides, ∀ other ∈ overrides, override.1 = other.1) :
    lastOfEach overrides = overrides.getLast?.toList := by
  obtain rfl | ⟨before, last, rfl⟩ := List.eq_nil_or_concat overrides
  · rfl
  · rw [List.concat_eq_append] at h ⊢
    have hbefore : (lastOfEach before).filter (fun override ↦ override.1 ≠ last.1) = [] := by
      refine List.filter_eq_nil_iff.mpr fun override hmem ↦ ?_
      have hoverride := (List.pwFilter_sublist before).subset hmem
      simpa using h override (List.mem_append_left _ hoverride) last (by simp)
    rw [lastOfEach_concat, hbefore, List.getLast?_concat]
    rfl

/-- The overrides of some keys replace each other as they do among all overrides. -/
theorem lastOfEach_filter {counts : String × α → Bool}
    (hcounts : ∀ {a b}, a.1 = b.1 → counts a = counts b) (overrides : List (String × α)) :
    lastOfEach (overrides.filter counts) = (lastOfEach overrides).filter counts := by
  induction overrides with
  | nil => rfl
  | cons override overrides ih =>
    rw [lastOfEach_cons]
    by_cases hoverride : counts override
    · have hiff : (∀ later ∈ overrides.filter counts, override.1 ≠ later.1) ↔
          ∀ later ∈ overrides, override.1 ≠ later.1 := by
        refine ⟨fun h later hlater heq ↦ h later ?_ heq, fun h later hlater ↦
          h later (List.mem_filter.mp hlater).1⟩
        exact List.mem_filter.mpr ⟨hlater, hcounts heq ▸ hoverride⟩
      rw [List.filter_cons_of_pos hoverride, lastOfEach_cons, ih]
      simp only [hiff]
      split_ifs
      · rw [List.filter_cons_of_pos hoverride]
      · rfl
    · rw [List.filter_cons_of_neg hoverride, ih]
      split_ifs
      · rw [List.filter_cons_of_neg hoverride]
      · rfl

end LastOfEach

/-! ### What a library collects -/

namespace Loader

variable {library : SettingsLibrary} {view : library.View} {layers : List (Layer library.Value)}

/-- The library has collected the layers: the files after the built-in defaults, and the last
override for each key. -/
structure Collects (view : library.View) (l : Loader library)
    (layers : List (Layer library.Value)) : Prop where
  /-- The files are kept in their order. -/
  sources_eq : view.sources l.builder = .document document :: layers.filterMap Layer.source?
  /-- The overrides are kept in any order. -/
  overrides_perm : (view.overrides l.builder).Perm (lastOfEach (layers.filterMap Layer.override?))

theorem collects_new (h : view.IsLawful) : (new : Loader library).Collects view [] where
  sources_eq := by
    rw [new, h.sources_addSource, h.sources_empty]
    rfl
  overrides_perm := by
    have hperm := h.overrides_addSource library.empty (.document document)
    rwa [h.overrides_empty] at hperm

/-- The overrides that were collected have plain names. -/
theorem Collects.isPlainName {l : Loader library} (hl : l.Collects view layers)
    (hplain : ∀ layer ∈ layers, layer.IsPlain) :
    ∀ override ∈ view.overrides l.builder, IsPlainName override.1 := by
  intro override hmem
  have hlast := (List.pwFilter_sublist _).subset (hl.overrides_perm.subset hmem)
  obtain ⟨layer, hlayer, hoverride⟩ := List.mem_filterMap.mp hlast
  exact hplain layer hlayer override hoverride

/-- One more layer can be added, and is collected. -/
theorem exists_add (h : view.IsLawful) {l : Loader library} (hl : l.Collects view layers)
    {layer : Layer library.Value} (hlayer : layer.IsPlain) :
    ∃ following, l.add layer = .ok following ∧ following.Collects view (layers ++ [layer]) := by
  obtain ⟨hsources, hoverrides⟩ := hl
  cases layer with
  | file path | optionalFile path =>
    refine ⟨_, rfl, ?_, ?_⟩
    · rw [List.filterMap_append, ← List.cons_append, ← hsources]
      exact h.sources_addSource _ _
    · rw [List.filterMap_append, List.filterMap_cons_none rfl, List.filterMap_nil, List.append_nil]
      exact (h.overrides_addSource _ _).trans hoverrides
  | override key value =>
    have hname : IsPlainName key := hlayer _ rfl
    obtain ⟨builder, hset, hkept, hperm⟩ := h.setOverride_of_isPlainName hname l.builder value
    refine ⟨⟨builder⟩, ?_, ?_, ?_⟩
    · rw [add, setOverride, hset]
      rfl
    · rw [hkept, hsources, List.filterMap_append]
      simp [Layer.source?]
    · have hothers := hoverrides.filter fun override ↦ override.1 ≠ key
      have hlast : [Layer.override key value].filterMap Layer.override? = [(key, value)] := rfl
      rw [List.filterMap_append, hlast, lastOfEach_concat]
      exact (hperm.trans (hothers.cons _)).trans (List.perm_append_singleton _ _).symm

/-- Layers can be added, and are collected. -/
theorem exists_ofLayers (h : view.IsLawful) (hplain : ∀ layer ∈ layers, layer.IsPlain) :
    ∃ l, ofLayers layers = .ok l ∧ l.Collects view layers := by
  induction layers using List.reverseRecOn with
  | nil => exact ⟨new, rfl, collects_new h⟩
  | append_singleton layers last ih =>
    obtain ⟨l, hl, hcollects⟩ := ih fun layer hmem ↦ hplain layer (List.mem_append_left _ hmem)
    obtain ⟨following, hadd, hfollowing⟩ := exists_add h hcollects (hplain last (by simp))
    exact ⟨following, by rw [ofLayers_concat, hl]; exact hadd, hfollowing⟩

end Loader

end ServiceHost
