import ServiceHost.Configuration.Basic
import ServiceHost.Proofs.Settings.Naming

/-!
# Settings that change their instance

Settings can be given another instance time and again. They do not remember the display name
without its note, but drop the note of the old instance from the one that they have. A name that
itself ends with the note of an instance is not told apart from a name to which the note was added,
and loses it when the instance changes. A configuration derives its names from what it was given,
and so keeps such a name.

## Main definitions

* `Naming.leftover` : what is left of a name after the notes of instances were dropped from it.
* `Naming.EndsInNote` : a name that ends with the note of an instance, after something else.
* `Settings.withInstances` : the settings after a sequence of instances.

## Main results

* `Settings.withInstances_concat` : the settings after any sequence of instances.
* `Settings.withInstances_eq_settings_iff` : the sequences after which the settings are those of a
  configuration with the last instance.
-/

namespace ServiceHost

namespace Naming

variable {name instanceName : String}

/-! ### Notes that are dropped -/

theorem dropEnding_append (text ending : String) : dropEnding (text ++ ending) ending = text := by
  rw [dropEnding, if_pos (endsWith_append text ending), String.toList_append, List.length_append,
    Nat.add_sub_cancel, List.take_left, String.ofList_toList]

theorem dropEnding_of_not_endsWith {text ending : String} (h : ¬ endsWith text ending) :
    dropEnding text ending = text :=
  if_neg h

/-- An ending that was dropped can be added again. -/
theorem dropEnding_append_self {text ending : String} (h : endsWith text ending) :
    dropEnding text ending ++ ending = text := by
  obtain ⟨start, hstart⟩ := endsWith_iff.mp h
  obtain rfl : text = String.ofList start ++ ending := by
    rw [← String.toList_inj, String.toList_append, String.toList_ofList, hstart]
  rw [dropEnding_append]

theorem withoutNote_of_ne (h : instanceName ≠ "") (text : String) :
    withoutNote text instanceName = dropEnding text (instanceNote instanceName) :=
  if_neg (by simpa using h)

theorem displayBase_self (name : String) : displayBase name name = name := ite_self _

theorem displayBase_displayBase (name explicitName : String) :
    displayBase name (displayBase name explicitName) = displayBase name explicitName := by
  by_cases h : explicitName.isEmpty
  · rw [displayBase, displayBase, if_pos h, ite_self]
  · have hbase : displayBase name explicitName = explicitName := if_neg h
    rw [hbase, hbase]

/-- The explicit name matters only where it is not empty. -/
theorem displayName_displayBase (name explicitName instanceName : String) :
    displayName name (displayBase name explicitName) instanceName =
      displayName name explicitName instanceName := by
  simp only [displayName, displayBase_displayBase]

/-- Of a display name and its base the same is left without the note, whether the note was added or
stood there before. -/
theorem withoutNote_displayName (name explicitName instanceName : String) :
    withoutNote (displayName name explicitName instanceName) instanceName =
      withoutNote (displayBase name explicitName) instanceName := by
  by_cases hempty : instanceName = ""
  · subst hempty
    rfl
  by_cases hends : endsWith (displayBase name explicitName) (instanceNote instanceName)
  · rw [displayName, if_pos (by simp [hends])]
  · rw [displayName, if_neg (by simp [hends, hempty]), withoutNote_of_ne hempty,
      withoutNote_of_ne hempty, dropEnding_append, dropEnding_of_not_endsWith hends]

/-! ### What is left of a name -/

/-- What is left of a name after the notes of instances were dropped from it, one after the other.
The whole name counts again once nothing is left. -/
def leftover (name : String) (instances : List String) : String :=
  instances.foldl (fun left instanceName ↦ displayBase name (withoutNote left instanceName)) name

theorem leftover_concat (name instanceName : String) (instances : List String) :
    leftover name (instances ++ [instanceName]) =
      displayBase name (withoutNote (leftover name instances) instanceName) := by
  rw [leftover, List.foldl_append]
  rfl

theorem displayBase_leftover (name : String) (instances : List String) :
    displayBase name (leftover name instances) = leftover name instances := by
  induction instances using List.reverseRecOn with
  | nil => exact displayBase_self name
  | append_singleton instances instanceName => rw [leftover_concat, displayBase_displayBase]

/-- The name ends with the note of the instance, after something else. -/
def EndsInNote (name instanceName : String) : Prop :=
  instanceName ≠ "" ∧ name ≠ instanceNote instanceName ∧ endsWith name (instanceNote instanceName)

/-- A name without the note of the instance is left as it is. -/
theorem displayBase_withoutNote (h : ¬ EndsInNote name instanceName) :
    displayBase name (withoutNote name instanceName) = name := by
  by_cases hempty : instanceName = ""
  · subst hempty
    exact displayBase_self name
  rw [withoutNote_of_ne hempty]
  by_cases hends : endsWith name (instanceNote instanceName)
  · have hname : name = instanceNote instanceName := by
      by_contra hne
      exact h ⟨hempty, hne, hends⟩
    have hdropped : dropEnding name (instanceNote instanceName) = "" := by
      have happend := dropEnding_append "" (instanceNote instanceName)
      rw [String.empty_append] at happend
      rw [hname, happend]
    rw [hdropped]
    rfl
  · rw [dropEnding_of_not_endsWith hends, displayBase_self]

theorem leftover_eq_self {instances : List String}
    (h : ∀ instanceName ∈ instances, ¬ EndsInNote name instanceName) :
    leftover name instances = name := by
  induction instances with
  | nil => rfl
  | cons instanceName instances ih =>
    obtain ⟨hfirst, hrest⟩ := List.forall_mem_cons.mp h
    rw [leftover, List.foldl_cons, displayBase_withoutNote hfirst]
    exact ih hrest

/-- A name with the note of the instance loses it. -/
theorem leftover_singleton_ne (h : EndsInNote name instanceName) :
    leftover name [instanceName] ≠ name := by
  obtain ⟨hempty, hne, hends⟩ := h
  have happend := dropEnding_append_self hends
  have hleft : leftover name [instanceName] = dropEnding name (instanceNote instanceName) := by
    have hdropped : dropEnding name (instanceNote instanceName) ≠ "" := by
      intro hdropped
      rw [hdropped, String.empty_append] at happend
      exact hne happend.symm
    rw [leftover, List.foldl_cons, List.foldl_nil, withoutNote_of_ne hempty]
    exact if_neg (by simpa using hdropped)
  intro hself
  rw [← hleft, hself] at happend
  have hnote : instanceNote instanceName = "" := by simpa using happend
  simp [instanceNote] at hnote

end Naming

namespace Settings

open ServiceHost.Naming

/-! ### Sequences of instances -/

/-- The settings after a sequence of instances, given one after the other. -/
def withInstances (s : Settings) (instances : List String) : Settings :=
  instances.foldl withInstance s

theorem withInstances_append (s : Settings) (instances others : List String) :
    s.withInstances (instances ++ others) = (s.withInstances instances).withInstances others :=
  List.foldl_append

/-- Of the instances before the last one only the notes matter that the name has lost by them. -/
theorem withInstances_concat (name : String) (earlier : List String) (last : String) :
    (ofName name).withInstances (earlier ++ [last]) =
      { ofName name with
        instanceName := last
        serviceName := Naming.serviceName name last
        displayName := Naming.displayName name (leftover name earlier) last } := by
  induction earlier using List.reverseRecOn generalizing last with
  | nil => rfl
  | append_singleton earlier instanceName ih =>
    have hbase : Naming.displayName name
        (withoutNote (Naming.displayName name (leftover name earlier) instanceName) instanceName)
          last =
        Naming.displayName name (leftover name (earlier ++ [instanceName])) last := by
      rw [withoutNote_displayName, displayBase_leftover, leftover_concat, displayName_displayBase]
    rw [withInstances_append, ih, ← hbase]
    rfl

/-- The settings of a configuration with the name and the instance. -/
theorem settings_configuration (name instanceName : String) :
    ({ name, instanceName } : Configuration).settings =
      { ofName name with
        instanceName
        serviceName := Naming.serviceName name instanceName
        displayName := Naming.displayName name name instanceName } := by
  have hbase : Naming.displayName name "" instanceName =
      Naming.displayName name name instanceName := by
    rw [← displayName_displayBase]
    rfl
  rw [← hbase]
  rfl

/-- After any sequence of instances the settings are those of a configuration with the last one,
except that the display name is formed from what is left of the name after the instances before. The
display names agree as well if the name does not end with the note of one of those instances, after
something else. They agree after every sequence for exactly the names that end so with no note. -/
theorem withInstances_eq_settings_iff (name : String) :
    (∀ earlier last, (ofName name).withInstances (earlier ++ [last]) =
      { ({ name, instanceName := last } : Configuration).settings with
        displayName := Naming.displayName name (leftover name earlier) last }) ∧
    (∀ earlier last, (∀ instanceName ∈ earlier, ¬ EndsInNote name instanceName) →
      (ofName name).withInstances (earlier ++ [last]) =
        ({ name, instanceName := last } : Configuration).settings) ∧
    ((∀ earlier last, (ofName name).withInstances (earlier ++ [last]) =
        ({ name, instanceName := last } : Configuration).settings) ↔
      ∀ instanceName, ¬ EndsInNote name instanceName) := by
  have hkept {earlier : List String} (last : String)
      (h : ∀ instanceName ∈ earlier, ¬ EndsInNote name instanceName) :
      (ofName name).withInstances (earlier ++ [last]) =
        ({ name, instanceName := last } : Configuration).settings := by
    rw [withInstances_concat, settings_configuration, leftover_eq_self h]
  refine ⟨fun earlier last ↦ withInstances_concat name earlier last,
    fun earlier last h ↦ hkept last h, fun hall instanceName hnote ↦ ?_,
    fun h earlier last ↦ hkept last fun instanceName _ ↦ h instanceName⟩
  -- the instance is given and taken away again
  have hdisplay := congrArg displayName (hall [instanceName] "")
  rw [withInstances_concat, settings_configuration] at hdisplay
  have hleft : leftover name [instanceName] = name := by
    rw [← displayBase_leftover]
    exact hdisplay.trans (displayBase_self name)
  exact leftover_singleton_ne hnote hleft

/-- A name that is nothing but a note, and one that ends with the note of the last instance only. -/
theorem withInstances_eq_settings_notes :
    (ofName " (Instance: 7)").withInstances ["7", "42"] =
        ({ name := " (Instance: 7)", instanceName := "42" } : Configuration).settings ∧
      (ofName "Joe (Instance: 42)").withInstances ["", "7", "42"] =
        ({ name := "Joe (Instance: 42)", instanceName := "42" } : Configuration).settings := by
  have hnote : ∀ instanceName ∈ ["7"], ¬ EndsInNote " (Instance: 7)" instanceName := by
    simp [EndsInNote, instanceNote]
  have hlast : ∀ instanceName ∈ ["", "7"], ¬ EndsInNote "Joe (Instance: 42)" instanceName := by
    simp only [List.forall_mem_cons, EndsInNote]
    decide +kernel
  exact ⟨(withInstances_eq_settings_iff _).2.1 ["7"] "42" hnote,
    (withInstances_eq_settings_iff _).2.1 ["", "7"] "42" hlast⟩

/-- A name loses a part of itself once an instance with this note is taken away, and one that ends
with the note twice does so when the instance is given again. -/
theorem withInstances_shortens_name :
    ((ofName "Joe (Instance: 42)").withInstances ["42", ""]).displayName = "Joe" ∧
      ({ name := "Joe (Instance: 42)", instanceName := "" } : Configuration).settings.displayName =
        "Joe (Instance: 42)" ∧
      ((ofName "Joe (Instance: 1) (Instance: 1)").withInstances ["1"]).displayName =
        "Joe (Instance: 1) (Instance: 1)" ∧
      ((ofName "Joe (Instance: 1) (Instance: 1)").withInstances ["1", "1"]).displayName =
        "Joe (Instance: 1)" := by
  decide +kernel

end Settings

end ServiceHost
