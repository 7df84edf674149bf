import ServiceHost.Configuration.Build
import ServiceHost.Proofs.Settings.Naming

/-!
# Clean names

A configuration is checked for its name and for the display name derived from it, and for nothing
else. The service name is clean nevertheless: the instance, its only other part, also is a part of
the display name.

## Main definitions

* `Configuration.IsCleanName` : a name that is not empty and contains no forbidden character.

## Main results

* `Configuration.validate_eq_ok` : what a configuration that passes the check has.
* `Configuration.isCleanName_of_validate` : its derived names are clean.
-/

namespace ServiceHost.Configuration

/-- The name is not empty and contains no tab, line end, backslash or slash. -/
def IsCleanName (name : String) : Prop :=
  name ≠ "" ∧ ∀ c ∈ ['\t', '\r', '\n', '\\', '/'], c ∉ name.toList

/-! ### The check -/

theorem isClean_iff {name : String} :
    isClean name ↔ ∀ c ∈ ['\t', '\r', '\n', '\\', '/'], c ∉ name.toList := by
  simp only [isClean, isForbidden, Bool.not_eq_true', List.any_eq_false, List.contains_iff_mem]
  exact ⟨fun h c hc hmem ↦ h c hmem hc, fun h c hmem hc ↦ h c hc hmem⟩

/-- The checks in their order, each with its error. -/
theorem validate_eq (c : Configuration) :
    c.validate =
      if c.name = "" then .error .missingName
      else if ¬ isClean c.name then .error (.invalidName .name c.name)
      else if ¬ isClean c.settings.displayName then
        .error (.invalidName .displayName c.settings.displayName)
      else if c.factory = none then .error .missingServiceFactory
      else .ok () := by
  have hname : c.settings.name = c.name := rfl
  simp only [validate, checkName, hname, String.isEmpty_iff, Option.isNone_iff_eq_none, bind,
    Except.bind, throw, throwThe, MonadExceptOf.throw, pure, Except.pure]
  split_ifs <;> rfl

/-- A configuration passes the check if it has a name, if this and the derived display name are
clean, and if something makes the service. -/
theorem validate_eq_ok {c : Configuration} :
    c.validate = .ok () ↔
      c.name ≠ "" ∧ isClean c.name ∧ isClean c.settings.displayName ∧ c.factory ≠ none := by
  rw [validate_eq]
  split_ifs <;> simp [*]

/-! ### The names derived -/

/-- A part of a clean name is clean. -/
theorem isClean_of_infix {part name : String} (h : part.toList <:+: name.toList)
    (hname : isClean name) : isClean part := by
  rw [isClean_iff] at hname ⊢
  exact fun c hc hmem ↦ hname c hc (h.subset hmem)

theorem isClean_serviceName {name instanceName : String} (hname : isClean name)
    (hinstance : isClean instanceName) : isClean (Naming.serviceName name instanceName) := by
  rw [isClean_iff] at hname hinstance ⊢
  intro c hc hmem
  obtain hmem | rfl | hmem := Naming.mem_serviceName hmem
  · exact hname c hc hmem
  · exact absurd hc (by decide)
  · exact hinstance c hc hmem

/-- If a configuration passes the check, its name, its service name and its display name are clean.
No forbidden character stands in its instance either. -/
theorem isCleanName_of_validate {c : Configuration} (h : c.validate = .ok ()) :
    IsCleanName c.settings.name ∧ IsCleanName c.settings.serviceName ∧
      IsCleanName c.settings.displayName ∧
      ∀ forbidden ∈ ['\t', '\r', '\n', '\\', '/'], forbidden ∉ c.instanceName.toList := by
  obtain ⟨hne, hname, hdisplay, -⟩ := validate_eq_ok.mp h
  have hinstance : isClean c.instanceName :=
    isClean_of_infix (Naming.instanceName_infix c.name c.displayName c.instanceName) hdisplay
  have hservice : isClean c.settings.serviceName := isClean_serviceName hname hinstance
  exact ⟨⟨hne, isClean_iff.mp hname⟩,
    ⟨Naming.serviceName_ne_empty hne _, isClean_iff.mp hservice⟩,
    ⟨Naming.displayName_ne_empty hne _ _, isClean_iff.mp hdisplay⟩, isClean_iff.mp hinstance⟩

/-- The instance reaches the service name without a check, and the display name had its note
before. -/
theorem isCleanName_of_validate_noted :
    IsCleanName "Joe" ∧ IsCleanName "Joe$42" ∧ IsCleanName "Shown (Instance: 42)" ∧
      ∀ forbidden ∈ ['\t', '\r', '\n', '\\', '/'], forbidden ∉ "42".toList :=
  @isCleanName_of_validate
    { name := "Joe", displayName := "Shown (Instance: 42)", instanceName := "42"
      factory := some fun _ ↦ ⟨true, true⟩ } rfl

end ServiceHost.Configuration
