import ServiceHost.Proofs.Settings.Instances

/-!
# Names that are displayed again

A display name carries the note of its instance once: forming the display name of a display name
adds nothing to it. A configuration to which its own display name is given back as the explicit one
therefore amounts to the same settings as before.

## Main results

* `Naming.displayName_eq_displayBase_iff` : the names to which no note is added.
* `Naming.displayName_displayName` : a display name is its own display name.
* `Naming.displayName_noted_once` : the parts of a display name, and the settings of a configuration
  that is given its own display name.
-/

namespace ServiceHost.Naming

variable {name explicitName instanceName : String}

/-! ### The base and the note -/

/-- The base is the explicit name, if there is one that is not empty. -/
theorem displayBase_getD (name : String) (explicitName? : Option String) :
    displayBase name (explicitName?.getD "") = (explicitName?.filter (· ≠ "")).getD name := by
  cases explicitName? with
  | none => rfl
  | some explicitName =>
    by_cases hempty : explicitName = "" <;> simp [displayBase, Option.filter_some, hempty]

theorem endsWith_iff_exists {text ending : String} :
    endsWith text ending ↔ ∃ start, text = start ++ ending := by
  constructor
  · exact fun h ↦ ⟨_, (dropEnding_append_self h).symm⟩
  · rintro ⟨start, rfl⟩
    exact endsWith_append start ending

theorem append_instanceNote_ne (text instanceName : String) :
    text ++ instanceNote instanceName ≠ text := by
  intro h
  have hlength := congrArg String.length h
  simp [instanceNote] at hlength

/-- No note is added without an instance, and to a name that has the note of the instance. -/
theorem displayName_eq_displayBase_iff :
    displayName name explicitName instanceName = displayBase name explicitName ↔
      instanceName = "" ∨ endsWith (displayBase name explicitName) (instanceNote instanceName) := by
  rw [displayName]
  simp only [Bool.or_eq_true, String.isEmpty_iff]
  split_ifs with h
  · exact iff_of_true rfl h
  · exact iff_of_false (append_instanceNote_ne _ _) h

/-! ### Display names of display names -/

/-- The base of a display name is the display name, which is empty only if there is no name. -/
theorem displayBase_displayName (name explicitName instanceName : String) :
    displayBase name (displayName name explicitName instanceName) =
      displayName name explicitName instanceName := by
  obtain ⟨hname, -⟩ | hname := displayName_cases name explicitName instanceName
  · rw [hname, displayBase_displayBase]
  · have hne : displayName name explicitName instanceName ≠ "" := by
      rw [hname]
      simp [instanceNote]
    exact if_neg (by simpa using hne)

/-- A display name is its own display name. -/
theorem displayName_displayName (name explicitName instanceName : String) :
    displayName name (displayName name explicitName instanceName) instanceName =
      displayName name explicitName instanceName := by
  have hbase := displayBase_displayName name explicitName instanceName
  have hnoted : instanceName = "" ∨
      endsWith (displayName name explicitName instanceName) (instanceNote instanceName) := by
    by_cases hempty : instanceName = ""
    · exact .inl hempty
    · exact .inr (endsWith_iff.mpr (instanceNote_suffix hempty name explicitName))
  rw [← hbase] at hnoted
  rw [displayName_eq_displayBase_iff.mpr hnoted, hbase]

/-- A display name is its base, which is the explicit name or else the name, or it is the base and
the note of the instance. It ends with the note of every instance that is not empty. It is the base
exactly if the instance is empty or the base ends with the note, so that the display name of a
display name is the same. Every configuration amounts to the same settings if its explicit display
name is replaced with the one of its settings. -/
theorem displayName_noted_once :
    (∀ (name : String) (explicitName? : Option String) (instanceName : String),
      let base := (explicitName?.filter (· ≠ "")).getD name
      let note := " (Instance: " ++ instanceName ++ ")"
      let shown := displayName name (explicitName?.getD "") instanceName
      (shown = base ∨ shown = base ++ note) ∧
      (instanceName ≠ "" → ∃ start, shown = start ++ note) ∧
      (shown = base ↔ instanceName = "" ∨ ∃ start, base = start ++ note) ∧
      displayName name shown instanceName = shown) ∧
    ∀ c : Configuration,
      { c with displayName := c.settings.displayName }.settings = c.settings := by
  refine ⟨fun name explicitName? instanceName ↦ ?_, fun c ↦ ?_⟩
  · intro base note shown
    have hbase : displayBase name (explicitName?.getD "") = base :=
      displayBase_getD name explicitName?
    refine ⟨?_, fun hne ↦ ?_, ?_, displayName_displayName _ _ _⟩
    · obtain ⟨hname, -⟩ | hname := displayName_cases name (explicitName?.getD "") instanceName
      · exact .inl (hname.trans hbase)
      · exact .inr (hname.trans (by rw [hbase]; rfl))
    · exact endsWith_iff_exists.mp (endsWith_iff.mpr (instanceNote_suffix hne _ _))
    · rw [← hbase, displayName_eq_displayBase_iff, endsWith_iff_exists]
      rfl
  · exact congrArg (fun displayName ↦ { c.settings with displayName })
      (displayName_displayName c.name c.displayName c.instanceName)

/-- A name with the note of another instance gets the one of its own, and keeps both when it is
displayed again. -/
theorem displayName_noted_once_other :
    let shown := displayName "Joe" "Joe (Instance: 4)" "42"
    shown = "Joe (Instance: 4) (Instance: 42)" ∧
      (∃ start, shown = start ++ (" (Instance: " ++ "42" ++ ")")) ∧
      displayName "Joe" shown "42" = shown ∧
      ({ name := "Joe", displayName := shown, instanceName := "42" } : Configuration).settings =
        ({ name := "Joe", displayName := "Joe (Instance: 4)", instanceName := "42" } :
          Configuration).settings := by
  intro shown
  obtain ⟨-, hends, -, hagain⟩ := displayName_noted_once.1 "Joe" (some "Joe (Instance: 4)") "42"
  exact ⟨by decide, hends (by decide), hagain, displayName_noted_once.2
    { name := "Joe", displayName := "Joe (Instance: 4)", instanceName := "42" }⟩

end ServiceHost.Naming
