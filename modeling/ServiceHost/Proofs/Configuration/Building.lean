import ServiceHost.Proofs.Configuration.Validation

/-!
# From configurations to hosts

A configuration is checked first, and then a plan with all that it holds is turned into the host of
its mode. Both steps ask for the maker of the service, and both form the derived names. The check
refuses all that the plan would refuse, so that a host is built whenever the check is passed, and
this host takes over what its mode needs.

## Main definitions

* `Configuration.Obstacle` : the first reason why a configuration becomes no host.
* `Host.BuiltFrom` : a host that has taken over from a configuration what its mode needs.

## Main results

* `Configuration.validate_eq_error` : the check finds exactly the obstacles.
* `Configuration.exists_plan_build` : the plan of a configuration that passes the check.
* `Configuration.build_cases` : a configuration becomes a host unless there is an obstacle.
-/

namespace ServiceHost

/-- The settings for which a service was made. -/
def Event.created? : Event → Option Settings
  | .created settings => some settings
  | _ => none

/-- The host is the one for the mode of the configuration and holds what this mode needs. Its
service is the one that is made for the settings. -/
def Host.BuiltFrom (c : Configuration) : Host → Prop
  | .install settings => c.mode = .install ∧ settings = c.installSettings
  | .uninstall settings mayElevate =>
    c.mode = .uninstall ∧ settings = c.settings ∧ mayElevate = c.mayElevate
  | .start settings mayElevate =>
    c.mode = .start ∧ settings = c.settings ∧ mayElevate = c.mayElevate
  | .stop settings mayElevate =>
    c.mode = .stop ∧ settings = c.settings ∧ mayElevate = c.mayElevate
  | .run settings service =>
    c.mode = .run ∧ settings = c.settings ∧ c.factory.map (· c.settings) = some service
  | .test settings service =>
    c.mode = .test ∧ settings = c.settings ∧ c.factory.map (· c.settings) = some service
  | .help settings introduction custom =>
    c.mode = .help ∧ settings = c.settings ∧ introduction = c.helpText ∧
      custom = c.grammar.registrations

namespace Host.BuiltFrom

variable {c : Configuration} {host : Host}

theorem mode_eq (h : host.BuiltFrom c) : host.mode = c.mode := by
  cases host <;> exact h.1.symm

theorem settings_eq (h : host.BuiltFrom c) : host.settings = c.settings := by
  cases host with
  | install settings =>
    obtain ⟨-, rfl⟩ := h
    rfl
  | _ => exact h.2.1

end Host.BuiltFrom

namespace Configuration

variable {c : Configuration} {error : ConfigurationError}

/-! ### The first obstacle -/

/-- The name contains a tab, a line end, a backslash or a slash. -/
def HasForbidden (name : String) : Prop :=
  ∃ c ∈ ['\t', '\r', '\n', '\\', '/'], c ∈ name.toList

theorem hasForbidden_iff {name : String} : HasForbidden name ↔ ¬ isClean name := by
  rw [isClean_iff, HasForbidden]
  push Not
  rfl

theorem not_hasForbidden_iff {name : String} : ¬ HasForbidden name ↔ isClean name := by
  rw [hasForbidden_iff, not_not]

/-- The reasons why a configuration becomes no host, in their order. Each of them counts only where
none of those before it holds. The display name is the derived one. -/
inductive Obstacle (c : Configuration) : ConfigurationError → Prop where
  /-- There is no name. -/
  | noName (h : c.name = "") : Obstacle c .missingName
  /-- The name contains a forbidden character. -/
  | name (hname : c.name ≠ "") (h : HasForbidden c.name) :
    Obstacle c (.invalidName .name c.name)
  /-- The display name contains a forbidden character. -/
  | displayName (hname : c.name ≠ "") (hclean : ¬ HasForbidden c.name)
    (h : HasForbidden (Naming.displayName c.name c.displayName c.instanceName)) :
    Obstacle c (.invalidName .displayName
      (Naming.displayName c.name c.displayName c.instanceName))
  /-- Nothing makes the service. -/
  | factory (hname : c.name ≠ "") (hclean : ¬ HasForbidden c.name)
    (hdisplay : ¬ HasForbidden (Naming.displayName c.name c.displayName c.instanceName))
    (h : c.factory = none) : Obstacle c .missingServiceFactory

/-- The check finds exactly the obstacles. -/
theorem validate_eq_error : c.validate = .error error ↔ c.Obstacle error := by
  have hderived : c.settings.displayName =
      Naming.displayName c.name c.displayName c.instanceName := rfl
  rw [validate_eq, hderived]
  constructor
  · intro h
    split_ifs at h with hname hclean hdisplay hfactory
    all_goals obtain rfl := Except.error.inj h
    · exact .noName hname
    · exact .factory hname (not_hasForbidden_iff.mpr hclean) (not_hasForbidden_iff.mpr hdisplay)
        hfactory
    · exact .displayName hname (not_hasForbidden_iff.mpr hclean) (hasForbidden_iff.mpr hdisplay)
    · exact .name hname (hasForbidden_iff.mpr hclean)
  · rintro (h | ⟨hname, h⟩ | ⟨hname, hclean, h⟩ | ⟨hname, hclean, hdisplay, h⟩)
    · rw [if_pos h]
    · rw [if_neg hname, if_pos (hasForbidden_iff.mp h)]
    · rw [if_neg hname, if_neg (mt hasForbidden_iff.mpr hclean), if_pos (hasForbidden_iff.mp h)]
    · rw [if_neg hname, if_neg (mt hasForbidden_iff.mpr hclean),
        if_neg (mt hasForbidden_iff.mpr hdisplay), if_pos h]

/-- Without an obstacle the check is passed. -/
theorem validate_of_no_obstacle (h : ∀ error, ¬ c.Obstacle error) : c.validate = .ok () := by
  cases hvalidate : c.validate with
  | error error => exact absurd (validate_eq_error.mp hvalidate) (h error)
  | ok _ => rfl

/-! ### The host of a plan -/

/-- A configuration is never without a mode. -/
theorem mode_ne_unselected (c : Configuration) : c.mode ≠ .unselected := by
  have hresolved (selection : Mode.Selection) : selection.resolved ≠ .unselected := by
    obtain ⟨chosen⟩ := selection
    cases chosen <;> exact nofun
  exact hresolved c.selection

/-- If the check is passed, the plan yields the host of the configuration. The service is made once
for a host that runs or tests it, and for no other host. -/
theorem exists_plan_build (h : c.validate = .ok ()) :
    ∃ host events, c.plan.build c.factory = .ok (host, events) ∧ host.BuiltFrom c ∧
      events.filterMap Event.created? =
        if c.mode = .run ∨ c.mode = .test then [c.settings] else [] := by
  obtain ⟨-, -, -, hfactory⟩ := validate_eq_ok.mp h
  obtain ⟨make, hmake⟩ := Option.ne_none_iff_exists'.mp hfactory
  have hservice : c.factory.map (· c.settings) = some (make c.settings) := by
    rw [hmake]
    rfl
  have hmode : c.plan.mode = c.mode := rfl
  rw [hmake, HostPlan.build, hmode]
  cases hselected : c.mode with
  | unselected => exact absurd hselected c.mode_ne_unselected
  | install => exact ⟨_, _, rfl, ⟨hselected, rfl⟩, rfl⟩
  | uninstall => exact ⟨_, _, rfl, ⟨hselected, rfl, rfl⟩, rfl⟩
  | start => exact ⟨_, _, rfl, ⟨hselected, rfl, rfl⟩, rfl⟩
  | stop => exact ⟨_, _, rfl, ⟨hselected, rfl, rfl⟩, rfl⟩
  | help => exact ⟨_, _, rfl, ⟨hselected, rfl, rfl, rfl⟩, rfl⟩
  | run => exact ⟨_, _, rfl, ⟨hselected, rfl, hservice⟩, rfl⟩
  | test => exact ⟨_, _, rfl, ⟨hselected, rfl, hservice⟩, rfl⟩

/-! ### The host of a configuration -/

theorem build_of_error (h : c.validate = .error error) : c.build = ⟨.error error, []⟩ := by
  rw [build, h]

/-- If the check is passed, the configuration becomes its host. -/
theorem exists_build (h : c.validate = .ok ()) :
    ∃ host, c.build.host = .ok host ∧ host.BuiltFrom c ∧
      c.build.events.filterMap Event.created? =
        if c.mode = .run ∨ c.mode = .test then [c.settings] else [] := by
  obtain ⟨host, events, hbuild, hbuilt, hevents⟩ := exists_plan_build h
  rw [build, h, hbuild]
  exact ⟨host, rfl, hbuilt, hevents⟩

/-- A configuration is refused for exactly the obstacles. -/
theorem build_eq_error : c.build.host = .error error ↔ c.Obstacle error := by
  rw [← validate_eq_error]
  cases hvalidate : c.validate with
  | error found =>
    rw [build_of_error hvalidate, Except.error.injEq, Except.error.injEq]
  | ok _ =>
    obtain ⟨host, hhost, -⟩ := exists_build hvalidate
    rw [hhost]
    exact ⟨nofun, nofun⟩

/-- The host that a configuration becomes is built from it. -/
theorem builtFrom_of_build {host : Host} (h : c.build.host = .ok host) : host.BuiltFrom c := by
  have hvalidate : c.validate = .ok () := validate_of_no_obstacle fun error herror ↦ by
    rw [build_eq_error.mpr herror] at h
    cases h
  obtain ⟨built, hbuild, hbuilt, -⟩ := exists_build hvalidate
  rw [hbuild] at h
  exact Except.ok.inj h ▸ hbuilt

/-- Building fails exactly if the check fails, with the same error, which is the first obstacle, and
then nobody sees anything. Where the check is passed, the plan of the configuration is not refused.
Without an obstacle the configuration becomes a host of its mode with its settings and with what
else the mode needs. The service is made once, for these settings, if the host runs or tests it, and
is not made otherwise. -/
theorem build_cases (c : Configuration) :
    (∀ error, c.build.host = .error error ↔ c.validate = .error error) ∧
    (∀ error, c.validate = .error error ↔ c.Obstacle error) ∧
    (∀ error, c.build.host = .error error → c.build.events = []) ∧
    (c.validate = .ok () → ∀ error, c.plan.build c.factory ≠ .error error) ∧
    ((∀ error, ¬ c.Obstacle error) →
      ∃ host, c.build.host = .ok host ∧ host.mode = c.mode ∧ host.settings = c.settings ∧
        host.BuiltFrom c ∧
        c.build.events.filterMap Event.created? =
          if c.mode = .run ∨ c.mode = .test then [c.settings] else []) := by
  refine ⟨fun error ↦ build_eq_error.trans validate_eq_error.symm, fun error ↦ validate_eq_error,
    fun error herror ↦ ?silent, fun hvalidate error ↦ ?plan, fun hnone ↦ ?host⟩
  case silent =>
    rw [build_of_error (validate_eq_error.mpr (build_eq_error.mp herror))]
  case plan =>
    obtain ⟨host, events, hbuild, -⟩ := exists_plan_build hvalidate
    rw [hbuild]
    exact nofun
  case host =>
    obtain ⟨host, hbuild, hbuilt, hevents⟩ := exists_build (validate_of_no_obstacle hnone)
    exact ⟨host, hbuild, hbuilt.mode_eq, hbuilt.settings_eq, hbuilt, hevents⟩

/-- A service that is tested, with an explicit display name that the instance changes. -/
theorem build_cases_test :
    let c : Configuration :=
      { name := "Joe", displayName := "Shown", instanceName := "42", selection := ⟨.test⟩
        factory := some fun _ ↦ ⟨true, false⟩ }
    (∀ error, ¬ c.Obstacle error) ∧
      c.settings.displayName = "Shown (Instance: 42)" ∧
      c.build.host = .ok (.test c.settings ⟨true, false⟩) ∧
      c.build.events.filterMap Event.created? = [c.settings] := by
  intro c
  have hvalidate : c.validate = .ok () :=
    validate_eq_ok.mpr ⟨by decide, by decide +kernel, by decide +kernel, Option.some_ne_none _⟩
  have hnone (error : ConfigurationError) : ¬ c.Obstacle error := by
    rw [← validate_eq_error, hvalidate]
    exact nofun
  obtain ⟨host, hbuild, hmode, -, hbuilt, hevents⟩ := (build_cases c).2.2.2.2 hnone
  refine ⟨hnone, by decide +kernel, ?_, hevents⟩
  rw [hbuild]
  cases host with
  | test settings service =>
    obtain ⟨-, rfl, hservice⟩ := hbuilt
    obtain rfl : (⟨true, false⟩ : Service) = service := Option.some.inj hservice
    rfl
  | _ => cases hmode

end Configuration

end ServiceHost
