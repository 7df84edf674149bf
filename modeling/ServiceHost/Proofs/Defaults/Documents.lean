import Mathlib.Data.List.TakeWhile
import ServiceHost.Defaults.Document.Library
import ServiceHost.Proofs.Defaults.Library
import ServiceHost.Proofs.Defaults.Merging
import ServiceHost.Proofs.Input.Reading

/-!
# The library of settings documents keeps its promises

The library with which the program loads its defaults does what a library of layered settings
promises, whatever the rule by which it arranges overrides. The fields of a document may be paths
into settings; they are seen as values of the settings as a whole.

## Main definitions

* `Setting.convert` : what a setting holds if it has a value.
* `Document.view` : what can be seen of the library.

## Main results

* `Value.Table.toDefaults_eq_ok` : defaults hold the conversions of the values of a table.
* `Document.read?_document` : what the document with the built-in defaults says.
* `Document.isLawful_view` : the library keeps its promises.
-/

namespace ServiceHost

open ServiceHost.Text

/-! ### Plain names -/

namespace KeyPath

open ServiceHost.Parser

theorem on_keyParser {text : String} (h : IsPlainName text) :
    keyParser.on text.toList = some (text, []) := by
  have hne := h.1
  have hchars : ∀ c ∈ text.toList, isKeyChar c := by simpa [isKeyChar, or_assoc] using h.2
  have hhead : text.toList.head?.any isKeyChar := by
    cases hlist : text.toList with
    | nil => exact absurd (String.toList_eq_nil_iff.mp hlist) hne
    | cons first following => exact hchars first (by rw [hlist]; exact List.mem_cons_self)
  rw [keyParser, on_map, on_many1_satisfy, if_pos hhead, List.takeWhile_eq_self_iff.mpr hchars,
    List.dropWhile_eq_nil_iff.mpr hchars, Option.map_some, Prod.map_apply, String.ofList_toList, id]

/-- A plain name is the path of a setting. -/
theorem ofText?_of_isPlainName {text : String} (h : IsPlainName text) :
    ofText? text = some ⟨text, []⟩ := by
  have hkey : keyParser.run (Cursor.start text.toList) =
      some ⟨text, (Cursor.start text.toList).seek []⟩ := by
    have hrun := (invariant_map String.ofList (invariant_many1 (.satisfy isKeyChar))).run_eq
      (Cursor.start text.toList)
    rw [Cursor.rest_start] at hrun
    exact hrun.trans (congrArg _ (on_keyParser h))
  have hsteps (offset : Nat) : stepParser.many.run (Cursor.ofRest offset []) =
      some ⟨[], Cursor.ofRest offset []⟩ := congrArg some (iterate_of_none rfl)
  rw [ofText?, parser, run_bind, hkey, Option.bind_some, run_bind, Cursor.seek, hsteps]
  rfl

end KeyPath

/-! ### Conversions -/

namespace Setting

/-- The built-in value of a setting. -/
def builtin : Setting → Value
  | startMode => .string "automatic"
  | startTimeout | stopTimeout => .integer 10
  | _ => .string ""

/-- What a setting holds if it has the value. -/
def convert : Setting → Value → Option Content
  | startMode, value =>
    (value.toName?.bind fun text ↦ StartMode.ofName? (fold text)).map .startMode
  | startTimeout, value | stopTimeout, value => value.toSeconds?.map .seconds
  | _, value => value.toText?.map .text

end Setting

namespace Value.Table

variable {fields others : Table} {key : String}

theorem text_eq_ok {text : String} :
    fields.text key = .ok text ↔ ((fields.get? key).getD .null).toText? = some text := by
  rw [Table.text]
  cases ((fields.get? key).getD .null).toText? <;> simp

theorem seconds_eq_ok {n : Nat} :
    fields.seconds key = .ok n ↔ ((fields.get? key).getD .null).toSeconds? = some n := by
  rw [Table.seconds]
  cases ((fields.get? key).getD .null).toSeconds? <;> simp

theorem startMode_eq_ok {mode : StartMode} :
    fields.startMode key = .ok mode ↔
      (((fields.get? key).getD .null).toName?.bind fun text ↦ StartMode.ofName? (fold text)) =
        some mode := by
  rw [Table.startMode]
  cases ((fields.get? key).getD .null).toName? with
  | none => simp
  | some text =>
    dsimp only [Option.bind_some]
    cases StartMode.ofName? (fold text) <;> simp

theorem bind_eq_ok {β γ : Type} {result : Except DefaultsError β}
    {next : β → Except DefaultsError γ} {value : γ} :
    result >>= next = .ok value ↔ ∃ first, result = .ok first ∧ next first = .ok value := by
  cases result with
  | error error => simp [bind, Except.bind]
  | ok first => simp [bind, Except.bind]

/-- Defaults hold the conversions of the values of a table. -/
theorem toDefaults_eq_ok {d : Defaults} :
    fields.toDefaults = .ok d ↔
      ∀ s : Setting, s.convert ((fields.get? s.key).getD .null) = some (d.content s) := by
  simp only [toDefaults, bind_eq_ok, text_eq_ok, seconds_eq_ok, startMode_eq_ok]
  constructor
  · rintro ⟨name, hname, displayName, hdisplayName, description, hdescription, instanceName,
      hinstanceName, mode, hmode, start, hstart, stop, hstop, ⟨⟩⟩
    rintro (_ | _)
    all_goals simp only [Setting.convert, Setting.key, Defaults.content, Option.map_some, *]
  · intro h
    have htext : Function.Injective Setting.Content.text := fun _ _ ↦ Setting.Content.text.inj
    have hmode : Function.Injective Setting.Content.startMode :=
      fun _ _ ↦ Setting.Content.startMode.inj
    have hseconds : Function.Injective Setting.Content.seconds :=
      fun _ _ ↦ Setting.Content.seconds.inj
    exact ⟨_, Option.map_injective htext (h .name), _, Option.map_injective htext (h .displayName),
      _, Option.map_injective htext (h .description),
      _, Option.map_injective htext (h .instanceName),
      _, Option.map_injective hmode (h .startMode),
      _, Option.map_injective hseconds (h .startTimeout),
      _, Option.map_injective hseconds (h .stopTimeout), rfl⟩

end Value.Table

/-! ### Readings -/

namespace Value

/-- A text, an integer or an empty table, for which there is nothing. Unlike values in general,
these can be compared. -/
def simple? : Value → Option (Option (String ⊕ Int))
  | string text => some (some (.inl text))
  | integer value => some (some (.inr value))
  | table [] => some none
  | _ => none

theorem eq_of_simple?_eq {value other : Value} (h : value.simple? = other.simple?)
    (hother : other.simple?.isSome) : value = other := by
  cases value using simple?.fun_cases <;> cases other using simple?.fun_cases <;>
    simp_all [simple?]

/-- The texts, integers and empty tables of a table. -/
def Table.simple (fields : Table) : List (String × Option (Option (String ⊕ Int))) :=
  fields.map fun (key, value) ↦ (key, value.simple?)

theorem Table.eq_of_simple_eq {fields others : Table} (h : fields.simple = others.simple)
    (hothers : ∀ field ∈ others, field.2.simple?.isSome) : fields = others := by
  induction others generalizing fields with
  | nil => exact List.map_eq_nil_iff.mp h
  | cons other others ih =>
    obtain ⟨field, rest, rfl, hfield, hrest⟩ := List.map_eq_cons_iff.mp h
    obtain ⟨hkey, hvalue⟩ := Prod.mk.inj hfield
    obtain ⟨hfirst, hothers⟩ := List.forall_mem_cons.mp hothers
    rw [ih hrest hothers, Prod.ext hkey (eq_of_simple?_eq hvalue hfirst)]

end Value

namespace Document

/-- A document with texts, integers and empty tables is known by these. -/
theorem read?_eq_some {text : String} {fields : Value.Table}
    (h : (read? text).map Value.Table.simple = some fields.simple)
    (hfields : ∀ field ∈ fields, field.2.simple?.isSome) : read? text = some fields := by
  obtain ⟨others, hothers, hsame⟩ := Option.map_eq_some_iff.mp h
  rw [hothers, Value.Table.eq_of_simple_eq hsame hfields]

/-- What the document with the built-in defaults says. -/
def builtin : Value.Table :=
  [("name", .string ""), ("display_name", .string ""), ("description", .string ""),
    ("instance_name", .string ""), ("start_mode", .string "automatic"),
    ("start_timeout_secs", .integer 10), ("stop_timeout_secs", .integer 10)]

theorem read?_document : read? Loader.document = some builtin := by
  refine read?_eq_some ?_ (by decide)
  -- the characters of a line are found faster than those of the whole document
  rw [read?, value?, Loader.document, String.toList_join]
  decide +kernel

/-! ### The library -/

/-- The fields of a document as values of the settings to which their keys lead. -/
def settingsOf (fields : Value.Table) : List (String × Value) :=
  fields.map fun (key, value) ↦
    ((KeyPath.ofKey key).key, KeyPath.nest (KeyPath.ofKey key).steps value)

theorem ofKey_of_isPlainName {key : String} (h : IsPlainName key) :
    KeyPath.ofKey key = ⟨key, []⟩ := by
  rw [KeyPath.ofKey, KeyPath.ofText?_of_isPlainName h]
  rfl

/-- Fields are layered by merging their values into the settings to which their keys lead. -/
theorem layer_eq_foldl (target fields : Value.Table) :
    layer target fields =
      (settingsOf fields).foldl (fun target field ↦ target.merge field.1 field.2) target := by
  rw [layer, settingsOf, List.foldl_map]
  simp only [assign, KeyPath.assign_eq_merge]

/-- Overrides of plain names are values of the settings that they name. -/
theorem settingsOf_of_isPlainName {fields : Value.Table}
    (h : ∀ field ∈ fields, IsPlainName field.1) : settingsOf fields = fields := by
  refine (List.map_congr_left fun field hmem ↦ ?_).trans (List.map_id fields)
  simp only [ofKey_of_isPlainName (h field hmem), KeyPath.nest, id_eq]

/-- Keys that are plain names in small letters stand for themselves. -/
theorem valuesFor_settingsOf {fields : Value.Table} {key : String}
    (hplain : ∀ field ∈ fields, IsPlainName field.1)
    (hsmall : ∀ field ∈ fields, field.1.toList.all isSmall) :
    valuesFor key (settingsOf fields) =
      (fields.filter fun field ↦ field.1 = key).map Prod.snd := by
  rw [settingsOf_of_isPlainName hplain, valuesFor]
  refine congrArg _ (List.filter_congr fun field hmem ↦ ?_)
  rw [lower_of_all_isSmall (hsmall field hmem)]

section Library

variable (arrange : List (String × Value) → List (String × Value))

/-- What can be seen of the library. -/
def view : (library arrange).View where
  sources l := l.sources
  overrides l := arrange l.overrides
  parse text := (read? text).map settingsOf
  blank := []
  assign := Value.Table.merge
  get? := Fields.get?
  isTable := Value.isTable
  overlay := Value.overlay
  convert := Setting.convert
  builtin := Setting.builtin

variable {arrange} {files : Files} {source : SettingsSource} {sources : List SettingsSource}

/-! #### Sources -/

theorem map_settingsOf_readSource (files : Files) (source : SettingsSource) :
    (readSource files source).toOption.map settingsOf = (view arrange).read? files source := by
  have hfields (text : String) : (fieldsOf text).toOption = read? text := by
    rw [fieldsOf]
    cases read? text <;> rfl
  cases source with
  | document text => exact congrArg _ (hfields text)
  | file path required =>
    rw [readSource, SettingsLibrary.View.read?]
    cases files path with
    | none => cases required <;> rfl
    | some text => exact congrArg _ (hfields text)

/-- A source that can be read is layered by merging its fields. -/
theorem layerSource_of_isReadable (h : (view arrange).IsReadable files source)
    (target : Value.Table) : layerSource files target source =
      .ok ((view arrange).assignAll target ((view arrange).fields files source)) := by
  have hread : _ = (view arrange).read? files source := map_settingsOf_readSource files source
  rw [SettingsLibrary.View.IsReadable, ← hread] at h
  rw [SettingsLibrary.View.fields, ← hread, layerSource]
  cases hsource : readSource files source with
  | error error =>
    rw [hsource] at h
    cases h
  | ok fields => exact congrArg Except.ok (layer_eq_foldl target fields)

theorem exists_layerSource_eq_error (h : ¬ (view arrange).IsReadable files source)
    (target : Value.Table) : ∃ error, layerSource files target source = .error error := by
  rw [SettingsLibrary.View.IsReadable, ← map_settingsOf_readSource] at h
  rw [layerSource]
  cases hsource : readSource files source with
  | error error => exact ⟨error, rfl⟩
  | ok fields =>
    rw [hsource] at h
    exact absurd rfl h

/-- Sources that can be read are layered in their order. -/
theorem foldlM_layerSource (h : ∀ source ∈ sources, (view arrange).IsReadable files source)
    (target : Value.Table) : sources.foldlM (layerSource files) target =
      .ok ((view arrange).assignAll target (sources.flatMap ((view arrange).fields files))) := by
  induction sources generalizing target with
  | nil => rfl
  | cons source sources ih =>
    obtain ⟨hsource, hsources⟩ := List.forall_mem_cons.mp h
    rw [List.foldlM_cons, layerSource_of_isReadable hsource, List.flatMap_cons,
      SettingsLibrary.View.assignAll_append]
    exact ih hsources _

/-- One source that cannot be read is enough for an error. -/
theorem exists_foldlM_layerSource_eq_error (hmem : source ∈ sources)
    (h : ¬ (view arrange).IsReadable files source) (target : Value.Table) :
    ∃ error, sources.foldlM (layerSource files) target = .error error := by
  induction sources generalizing target with
  | nil => exact absurd hmem List.not_mem_nil
  | cons first sources ih =>
    rw [List.foldlM_cons]
    by_cases hfirst : (view arrange).IsReadable files first
    · rw [layerSource_of_isReadable hfirst]
      obtain rfl | hmem := List.mem_cons.mp hmem
      · exact absurd hfirst h
      · exact ih hmem _
    · obtain ⟨error, herror⟩ := exists_layerSource_eq_error hfirst target
      exact ⟨error, by rw [herror]; rfl⟩

/-! #### Promises -/

theorem setOverride_of_isPlainName {key : String} (hkey : IsPlainName key) (l : Layers)
    (value : Value) : l.setOverride key value = .ok
      ⟨l.sources, l.overrides.filter (fun override ↦ override.1 ≠ key) ++ [(key, value)]⟩ := by
  rw [Layers.setOverride, KeyPath.ofText?_of_isPlainName hkey]

/-- Layers of which all sources can be read are built from the sources and then the overrides. -/
theorem build_of_isReadable {l : Layers}
    (hplain : ∀ override ∈ arrange l.overrides, IsPlainName override.1)
    (hreadable : ∀ source ∈ l.sources, (view arrange).IsReadable files source) :
    build arrange files l = .ok ((view arrange).assignAll
      ((view arrange).assignAll [] (l.sources.flatMap ((view arrange).fields files)))
      (arrange l.overrides)) := by
  rw [build, foldlM_layerSource hreadable]
  refine congrArg Except.ok ((layer_eq_foldl _ _).trans ?_)
  rw [settingsOf_of_isPlainName hplain]
  rfl

theorem exists_build_eq_error {l : Layers} (hmem : source ∈ l.sources)
    (h : ¬ (view arrange).IsReadable files source) :
    ∃ error, build arrange files l = .error error := by
  obtain ⟨error, herror⟩ := exists_foldlM_layerSource_eq_error hmem h []
  refine ⟨error, ?_⟩
  rw [build, herror]
  rfl

/-- The document with the built-in defaults gives each setting its built-in value. -/
theorem valuesFor_settingsOf_builtin (s : Setting) :
    valuesFor s.key (settingsOf builtin) = [s.builtin] := by
  rw [valuesFor_settingsOf (by decide +kernel) (by decide +kernel)]
  cases s <;> rfl

/-- The library keeps its promises if its rule neither drops nor adds overrides. -/
theorem isLawful_view (harrange : ∀ overrides, (arrange overrides).Perm overrides) :
    (view arrange).IsLawful where
  sources_empty := rfl
  overrides_empty := (harrange []).eq_nil
  sources_addSource _ _ := rfl
  overrides_addSource _ _ := .refl _
  setOverride_of_isPlainName hkey l value := by
    refine ⟨_, setOverride_of_isPlainName hkey l value, rfl, ?_⟩
    refine (harrange _).trans ((List.perm_append_singleton _ _).trans (.cons _ ?_))
    exact (harrange l.overrides).symm.filter _
  build_of_isReadable := build_of_isReadable
  build_of_not_isReadable := exists_build_eq_error
  get?_blank _ := rfl
  get?_assign := Value.get?_merge
  overlay_of_not_isTable := Value.overlay_of_not_isTable
  toDefaults_eq_ok {settings d} := by
    refine Value.Table.toDefaults_eq_ok.trans (forall_congr' fun s ↦ ?_)
    have hnull : s.convert .null = none := by cases s <;> rfl
    change _ ↔ ∃ value, Fields.get? settings s.key = some value ∧ s.convert value = _
    cases Fields.get? settings s.key with
    | none => simp [hnull]
    | some value => simp
  parse_document :=
    ⟨settingsOf builtin, congrArg (Option.map settingsOf) read?_document,
      valuesFor_settingsOf_builtin⟩
  isTable_builtin s := by cases s <;> rfl
  convert_builtin s := by cases s <;> rfl

end Library

end Document

end ServiceHost
