import ServiceHost.Configuration.Build
import ServiceHost.Proofs.Configuration.LastValue

/-!
# Inert directives

Directives set the start mode and allow a launch with administrator rights in every mode, but only
some hosts hold what they set. Where the mode of a configuration has no use for a kind of
directives, forgetting what they set makes no difference to the host. Forgetting moves through
directives: it takes those of the kind away and leaves everything else that happens as it is. Two
command lines that differ in such directives only therefore lead to the same host.

## Main definitions

* `Directive.without` : the directives of other kinds.
* `Directive.Kind.IsUnused` : the hosts of a mode do not hold what directives of a kind set.
* `Configuration.forget` : a configuration without what directives of given kinds set.
* `Applied.LeadsAlike` : directives that have led to the same host, or to the same error.

## Main results

* `Configuration.forget_applyAll` : forgetting takes the directives of the kinds away.
* `Configuration.build_forget` : a host does not hold what its mode has no use for.
* `Configuration.leadsAlike_of_inert` : inert directives make no difference to the host.
-/

namespace ServiceHost

/-- The directives of other kinds than the given ones. -/
def Directive.without (kinds : List Directive.Kind) (directives : List Directive) :
    List Directive :=
  directives.filter fun directive ↦ directive.kind ∉ kinds

/-- The directives of the kind only set what hosts of the mode do not hold. -/
def Directive.Kind.IsUnused (mode : Mode) : Directive.Kind → Prop
  | .startMode => mode ≠ .install
  | .allowElevation => mode ∈ [.run, .test, .help]
  | _ => False

/-! ### Plans of hosts -/

namespace HostPlan

/-- Only an install host holds the start mode. -/
theorem build_startMode (plan : HostPlan) (factory : Option ServiceFactory)
    (h : plan.mode ≠ .install) (startMode : StartMode) :
    { plan with startMode }.build factory = plan.build factory := by
  obtain ⟨mode, settings, _, mayElevate, introduction, custom⟩ := plan
  cases mode with
  | install => exact absurd rfl h
  | _ => rfl

/-- The hosts that run, test or explain a service do not hold the permission. -/
theorem build_mayElevate (plan : HostPlan) (factory : Option ServiceFactory)
    (h : plan.mode ∈ [.run, .test, .help]) (mayElevate : Bool) :
    { plan with mayElevate }.build factory = plan.build factory := by
  obtain ⟨mode, settings, startMode, _, introduction, custom⟩ := plan
  cases mode with
  | run | test | help => rfl
  | _ => simp at h

end HostPlan

namespace Configuration

open ServiceHost.Directive

variable {c : Configuration} {kinds : List Kind}

/-- The configuration without what directives of the kinds have set in it. Only the start mode and
the permission are ever forgotten. -/
def forget (kinds : List Kind) (c : Configuration) : Configuration :=
  { c with
    startMode := if .startMode ∈ kinds then .automatic else c.startMode
    mayElevate := if .allowElevation ∈ kinds then false else c.mayElevate }

end Configuration

/-- What directives have left, without what those of the kinds have set. -/
def Applied.forget (kinds : List Directive.Kind) (applied : Applied) : Applied :=
  { applied with configuration := applied.configuration.forget kinds }

theorem Applied.forget_eq_iff {kinds : List Directive.Kind} {applied other : Applied} :
    applied.forget kinds = other ↔ applied.configuration.forget kinds = other.configuration ∧
      applied.events = other.events ∧ applied.error? = other.error? := by
  obtain ⟨configuration, events, error?⟩ := other
  rw [forget, Applied.mk.injEq]

/-- Directives have led to the same: to the same error or to none, to the same mode, and, when a
host is built, to the same error or to the same host. Others have seen the same. -/
structure Applied.LeadsAlike (applied other : Applied) : Prop where
  /-- The same directive could not be applied, or all could be. -/
  error?_eq : applied.error? = other.error?
  /-- Others have seen the same, such as calls of handlers. -/
  events_eq : applied.events = other.events
  /-- The same mode is selected. -/
  mode_eq : applied.configuration.mode = other.configuration.mode
  /-- Building fails with the same error, or it yields the same host. If this host has a service, it
  is made for the same settings. -/
  build_eq : applied.configuration.build = other.configuration.build

namespace Configuration

open ServiceHost.Directive

variable {c : Configuration} {kinds : List Kind} {directive : Directive}

/-! ### Forgetting among directives -/

@[simp] theorem mode_forget (kinds : List Kind) (c : Configuration) :
    (c.forget kinds).mode = c.mode := rfl

/-- A directive of another kind has its effect also after something was forgotten. -/
theorem forget_apply (c : Configuration) (h : directive.kind ∉ kinds) :
    (c.apply directive).forget kinds = (c.forget kinds).apply directive := by
  cases directive with
  | mode mode =>
    have haccepts : (c.forget kinds).selection.accepts mode = c.selection.accepts mode := rfl
    rw [apply, apply, haccepts]
    split_ifs <;> rfl
  | startMode chosen =>
    have hkind : .startMode ∉ kinds := h
    simp only [apply, Applied.forget, forget, if_neg hkind]
  | allowElevation =>
    have hkind : .allowElevation ∉ kinds := h
    simp only [apply, Applied.forget, forget, if_neg hkind]
  | _ => rfl

section Inert

variable (hkinds : kinds ⊆ [.startMode, .allowElevation])

include hkinds

/-- A directive of a kind that is forgotten does nothing else. -/
theorem forget_apply_of_mem (c : Configuration) (h : directive.kind ∈ kinds) :
    (c.apply directive).configuration.forget kinds = c.forget kinds ∧
      (c.apply directive).events = [] ∧ (c.apply directive).error? = none := by
  have hkind := hkinds h
  cases directive with
  | startMode chosen =>
    have hmem : .startMode ∈ kinds := h
    simp only [apply, forget, if_pos hmem, and_self]
  | allowElevation =>
    have hmem : .allowElevation ∈ kinds := h
    simp only [apply, forget, if_pos hmem, and_self]
  | _ => simp [kind] at hkind

/-- Forgetting what directives of the kinds have set takes them away, wherever they stand among the
others, and leaves what others saw and the error as they are. -/
theorem forget_applyAll (c : Configuration) (directives : List Directive) :
    (c.applyAll directives).forget kinds =
      (c.forget kinds).applyAll (without kinds directives) := by
  induction directives generalizing c with
  | nil => rfl
  | cons directive directives ih =>
    by_cases hkind : directive.kind ∈ kinds
    · obtain ⟨hconfiguration, hevents, herror⟩ := forget_apply_of_mem hkinds c hkind
      have hwithout : without kinds (directive :: directives) = without kinds directives :=
        List.filter_cons_of_neg (by simpa using hkind)
      rw [hwithout, ← hconfiguration, ← ih, applyAll]
      simp only [herror, hevents, List.nil_append]
    · have hforget := forget_apply c hkind
      obtain ⟨hconfiguration, hevents, herror⟩ := Applied.forget_eq_iff.mp hforget
      have hwithout : without kinds (directive :: directives) =
          directive :: without kinds directives :=
        List.filter_cons_of_pos (by simpa using hkind)
      rw [hwithout, applyAll, applyAll, ← herror, ← hevents, ← hconfiguration, ← ih]
      cases (c.apply directive).error? with
      | none => rfl
      | some error => exact hforget

/-- Command lines with the same directives of other kinds leave the same, but for what is
forgotten. -/
theorem forget_applyCommandLine_congr {first second : String}
    (h : without kinds (c.grammar.parse first) = without kinds (c.grammar.parse second)) :
    (c.applyCommandLine first).forget kinds = (c.applyCommandLine second).forget kinds := by
  have hparse (text : String) : c.grammar.prepare.parse text = c.grammar.parse text := by
    rw [Grammar.parse, Grammar.parse, Grammar.compiled_eq, Grammar.compiled_eq,
      Grammar.registrations_prepare]
  have hall (prepared : Configuration) : (prepared.applyAll (c.grammar.parse first)).forget kinds =
      (prepared.applyAll (c.grammar.parse second)).forget kinds := by
    rw [forget_applyAll hkinds, forget_applyAll hkinds, h]
  have hforget := hall { c with grammar := c.grammar.prepare }
  rw [applyCommandLine, applyCommandLine]
  simp only [hparse]
  generalize applyAll _ (c.grammar.parse first) = applied at hforget
  generalize applyAll _ (c.grammar.parse second) = other at hforget
  obtain ⟨hconfiguration, hevents, herror⟩ := Applied.forget_eq_iff.mp hforget
  have hmode : applied.configuration.mode = other.configuration.mode := by
    rw [← mode_forget kinds, hconfiguration]
    rfl
  have herror' : applied.error? = other.error? := herror
  rw [← herror', ← hmode]
  cases applied.error? with
  | some error => exact hforget
  | none => exact Applied.forget_eq_iff.mpr ⟨hconfiguration, congrArg (· ++ _) hevents, rfl⟩

end Inert

/-! ### The host without what is forgotten -/

theorem validate_forget (kinds : List Kind) (c : Configuration) :
    (c.forget kinds).validate = c.validate := rfl

/-- A plan may forget what the hosts of its mode do not hold. -/
theorem plan_forget (h : ∀ kind ∈ kinds, kind.IsUnused c.mode) (factory : Option ServiceFactory) :
    (c.forget kinds).plan.build factory = c.plan.build factory := by
  have hstart : { c.plan with startMode := (c.forget kinds).startMode }.build factory =
      c.plan.build factory := by
    by_cases hmem : .startMode ∈ kinds
    · exact c.plan.build_startMode factory (h _ hmem) _
    · rw [show (c.forget kinds).startMode = c.startMode from if_neg hmem]
      rfl
  rw [← hstart]
  by_cases hmem : .allowElevation ∈ kinds
  · exact HostPlan.build_mayElevate { c.plan with startMode := _ } factory (h _ hmem) _
  · rw [plan, show (c.forget kinds).mayElevate = c.mayElevate from if_neg hmem]
    rfl

/-- A host does not hold what its mode has no use for, and nobody sees it while the host is
built. -/
theorem build_forget (h : ∀ kind ∈ kinds, kind.IsUnused c.mode) :
    (c.forget kinds).build = c.build := by
  have hfactory : (c.forget kinds).factory = c.factory := rfl
  have hconfigured : (c.forget kinds).configured = c.configured := rfl
  rw [build, build, validate_forget, hfactory, plan_forget h, hconfigured]

/-! ### Two command lines -/

/-- Directives of kinds that the mode has no use for make no difference to what a command line
leads to. -/
theorem leadsAlike_of_isUnused {first second : String}
    (h : without kinds (c.grammar.parse first) = without kinds (c.grammar.parse second))
    (hunused : ∀ kind ∈ kinds, kind.IsUnused (c.applyCommandLine first).configuration.mode) :
    (c.applyCommandLine first).LeadsAlike (c.applyCommandLine second) := by
  have hkinds : kinds ⊆ [.startMode, .allowElevation] := by
    intro kind hkind
    have hkind := hunused kind hkind
    cases kind with
    | startMode | allowElevation => simp
    | _ => exact hkind.elim
  obtain ⟨hconfiguration, hevents, herror⟩ :=
    Applied.forget_eq_iff.mp (forget_applyCommandLine_congr hkinds h)
  have hforget : (c.applyCommandLine first).configuration.forget kinds =
      (c.applyCommandLine second).configuration.forget kinds := hconfiguration
  have hmode : (c.applyCommandLine first).configuration.mode =
      (c.applyCommandLine second).configuration.mode := by
    rw [← mode_forget kinds, hforget, mode_forget]
  refine ⟨herror, hevents, hmode, ?_⟩
  rw [← build_forget hunused, hforget, build_forget (hmode ▸ hunused)]

/-- Let two command lines have the same directives, in the same order, but for those that set the
start mode. If the mode that is selected is not the one to install, both lead to the same: to the
same error of a directive, and, when a host is built, to the same error, or to the same host with a
service made for the same settings. If the service is run or tested, or its usage is shown, this
also holds where the command lines differ in directives that allow a launch with administrator
rights. -/
theorem leadsAlike_of_inert (c : Configuration) (first second : String) :
    (without [.startMode] (c.grammar.parse first) =
        without [.startMode] (c.grammar.parse second) →
      (c.applyCommandLine first).configuration.mode ≠ .install →
      (c.applyCommandLine first).LeadsAlike (c.applyCommandLine second)) ∧
    (without [.startMode, .allowElevation] (c.grammar.parse first) =
        without [.startMode, .allowElevation] (c.grammar.parse second) →
      (c.applyCommandLine first).configuration.mode ∈ [.run, .test, .help] →
      (c.applyCommandLine first).LeadsAlike (c.applyCommandLine second)) := by
  refine ⟨fun h hmode ↦ leadsAlike_of_isUnused h ?start,
    fun h hmode ↦ leadsAlike_of_isUnused h ?elevation⟩
  case start =>
    intro kind hkind
    obtain rfl := List.mem_singleton.mp hkind
    exact hmode
  case elevation =>
    intro kind hkind
    obtain rfl | rfl : kind = .startMode ∨ kind = .allowElevation := by simpa using hkind
    · intro hinstall
      rw [hinstall] at hmode
      simp at hmode
    · exact hmode

/-- A host that stops its service, with start modes in front and in between, and a host that tests
it, with the permission in addition. -/
theorem leadsAlike_of_inert_stop_and_test :
    let c : Configuration := { name := "Joe", factory := some fun _ ↦ ⟨true, false⟩ }
    (c.applyCommandLine "stop --sudo -instance 42").LeadsAlike
        (c.applyCommandLine "Stop --manual -SUDO --disabled -instance:\"42\" --manual") ∧
      (c.applyCommandLine "stop --sudo -instance 42").configuration.build.host.toOption =
        some (.stop { Settings.ofName "Joe" with
          displayName := "Joe (Instance: 42)", instanceName := "42", serviceName := "Joe$42" }
            true) ∧
      (c.applyCommandLine "test").LeadsAlike (c.applyCommandLine "debug --delayed --sudo") := by
  intro c
  refine ⟨(leadsAlike_of_inert c _ _).1 ?_ ?_, ?_, (leadsAlike_of_inert c _ _).2 ?_ ?_⟩
  all_goals decide +kernel

end Configuration

end ServiceHost
