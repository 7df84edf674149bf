import Mathlib.Logic.Function.Basic
import Mathlib.Tactic.SplitIfs
import ServiceHost.Environment.Memory

/-!
# Replaying recorded calls

The service manager in memory records every call. What the calls did to the services can be found
again from the record alone, without the table of the manager: each call has one effect on the
services, seen as a function from names to whether the service runs. A call is legal if the
services allow it, and a service that refuses to start and to stop makes a legal call idle.

## Main definitions

* `EnvironmentCall.replay`, `EnvironmentCall.replayAll` : the services after a call and after
  calls in order.
* `EnvironmentCall.IsLegal`, `EnvironmentCall.AllLegal` : a call that the services allow, and
  calls each of which is allowed when its turn comes.
* `MemoryEnvironment.Reaches` : a manager after legal calls that account for its services.

## Main results

* `ServiceTable.get?_insert`, `ServiceTable.get?_erase` : the table as a function of names.
* `MemoryEnvironment.Reaches.trans` : what is reached step by step is reached.
-/

namespace ServiceHost

/-! ### The table as a function of names -/

namespace ServiceTable

variable {table : ServiceTable} {name : String}

theorem lookup_filter_self (entries : List (String × Bool)) (name : String) :
    (entries.filter fun (entry, _) ↦ entry != name).lookup name = none := by
  rw [List.lookup_eq_none_iff]
  intro entry hmem
  have hentry := (List.mem_filter.mp hmem).2
  rw [bne_iff_ne] at hentry
  exact bne_iff_ne.mpr hentry.symm

/-- Without the entries of one name every other name is looked up as before. -/
theorem lookup_filter_ne (entries : List (String × Bool)) {other : String} (h : other ≠ name) :
    (entries.filter fun (entry, _) ↦ entry != name).lookup other = entries.lookup other := by
  induction entries with
  | nil => rfl
  | cons entry entries ih =>
    obtain ⟨key, running⟩ := entry
    by_cases hkey : key = name
    · have hother : (other == key) = false := beq_eq_false_iff_ne.mpr (hkey ▸ h)
      rw [List.filter_cons_of_neg (by simp [hkey]), ih, List.lookup_cons, hother]
    · rw [List.filter_cons_of_pos (by simp [hkey]), List.lookup_cons, List.lookup_cons, ih]

theorem get?_erase (table : ServiceTable) (name : String) :
    (table.erase name).get? = Function.update table.get? name none := by
  funext other
  rw [Function.update_apply]
  split_ifs with hother
  · rw [hother]
    exact lookup_filter_self table.entries name
  · exact lookup_filter_ne table.entries hother

theorem get?_insert (table : ServiceTable) (name : String) (running : Bool) :
    (table.insert name running).get? = Function.update table.get? name (some running) := by
  funext other
  rw [Function.update_apply, get?, insert, List.lookup_cons]
  split_ifs with hother
  · rw [beq_iff_eq.mpr hother]
  · rw [beq_eq_false_iff_ne.mpr hother]
    exact lookup_filter_ne table.entries hother

theorem contains_eq_false : table.contains name = false ↔ table.get? name = none := by
  rw [contains, Option.isSome_eq_false_iff, Option.isNone_iff_eq_none]

theorem contains_eq_true : table.contains name = true ↔ table.get? name ≠ none := by
  rw [contains, Option.isSome_iff_ne_none]

end ServiceTable

/-! ### Calls -/

namespace EnvironmentCall

/-- The services after a call, where some of them refuse to start and to stop. -/
def replay (failing : List String) (services : String → Option Bool) :
    EnvironmentCall → String → Option Bool
  | install name _ => Function.update services name (some false)
  | uninstall name => Function.update services name none
  | start name =>
    if name ∈ failing then services else Function.update services name (some true)
  | stop name =>
    if name ∈ failing then services else Function.update services name (some false)
  | elevate => services
  | waitForShutdown => services

/-- The services after calls in order. -/
def replayAll (failing : List String) (services : String → Option Bool)
    (calls : List EnvironmentCall) : String → Option Bool :=
  calls.foldl (replay failing) services

/-- The services allow the call. A service is installed only if it is absent, removed only if it
is present, started only if it is stopped, and stopped only if it runs. -/
def IsLegal (services : String → Option Bool) : EnvironmentCall → Prop
  | install name _ => services name = none
  | uninstall name => services name ≠ none
  | start name => services name = some false
  | stop name => services name = some true
  | elevate => True
  | waitForShutdown => True

/-- The services allow each call after the calls before it. -/
def AllLegal (failing : List String) (services : String → Option Bool) :
    List EnvironmentCall → Prop
  | [] => True
  | call :: calls => call.IsLegal services ∧ AllLegal failing (call.replay failing services) calls

/-- The call leaves the services to others. -/
def IsHarmless (call : EnvironmentCall) : Prop := call = elevate ∨ call = waitForShutdown

variable {failing : List String} {services : String → Option Bool}
  {calls following : List EnvironmentCall}

theorem replayAll_append : replayAll failing services (calls ++ following) =
    replayAll failing (replayAll failing services calls) following :=
  List.foldl_append

theorem allLegal_append : AllLegal failing services (calls ++ following) ↔
    AllLegal failing services calls ∧
      AllLegal failing (replayAll failing services calls) following := by
  induction calls generalizing services with
  | nil => simp [AllLegal, replayAll]
  | cons call calls ih => simp only [List.cons_append, AllLegal, ih, and_assoc, replayAll,
      List.foldl_cons]

end EnvironmentCall

/-! ### Managers after calls -/

namespace MemoryEnvironment

open EnvironmentCall

/-- The second manager is the first one after legal calls. It has recorded them, its services are
those that the calls lead to, and without administrator rights no call concerned the services. -/
structure Reaches (env : MemoryEnvironment) (calls : List EnvironmentCall)
    (later : MemoryEnvironment) : Prop where
  /-- The calls are recorded behind those before. -/
  calls_eq : later.calls = env.calls ++ calls
  /-- The services are those that the calls lead to. -/
  get?_eq : later.services.get? = replayAll env.failing env.services.get? calls
  /-- Every call was legal when its turn came. -/
  allLegal : AllLegal env.failing env.services.get? calls
  /-- The rights are kept. -/
  administrator_eq : later.administrator = env.administrator
  /-- The services that refuse stay the same. -/
  failing_eq : later.failing = env.failing
  /-- Without administrator rights the table is kept. -/
  services_eq : env.administrator = false → later.services = env.services
  /-- Without administrator rights no call concerns the services. -/
  harmless : env.administrator = false → ∀ call ∈ calls, call.IsHarmless

variable {env later last : MemoryEnvironment} {calls following : List EnvironmentCall}
  {call : EnvironmentCall}

theorem Reaches.refl (env : MemoryEnvironment) : env.Reaches [] env where
  calls_eq := (List.append_nil _).symm
  get?_eq := rfl
  allLegal := trivial
  administrator_eq := rfl
  failing_eq := rfl
  services_eq _ := rfl
  harmless _ _ hmem := absurd hmem List.not_mem_nil

/-- What is reached step by step is reached. -/
theorem Reaches.trans (h : env.Reaches calls later) (h' : later.Reaches following last) :
    env.Reaches (calls ++ following) last where
  calls_eq := by rw [h'.calls_eq, h.calls_eq, List.append_assoc]
  get?_eq := by rw [h'.get?_eq, h.get?_eq, h.failing_eq, replayAll_append]
  allLegal := by
    have hfollowing := h'.allLegal
    rw [h.get?_eq, h.failing_eq] at hfollowing
    exact allLegal_append.mpr ⟨h.allLegal, hfollowing⟩
  administrator_eq := h'.administrator_eq.trans h.administrator_eq
  failing_eq := h'.failing_eq.trans h.failing_eq
  services_eq hrights :=
    (h'.services_eq (h.administrator_eq.trans hrights)).trans (h.services_eq hrights)
  harmless hrights call hmem := (List.mem_append.mp hmem).elim (h.harmless hrights call)
    (h'.harmless (h.administrator_eq.trans hrights) call)

/-- A recorded call that the services allow and that leaves them as they are. -/
theorem Reaches.record (hlegal : call.IsLegal env.services.get?)
    (hreplay : call.replay env.failing env.services.get? = env.services.get?)
    (hrights : env.administrator = false → call.IsHarmless) :
    env.Reaches [call] (env.record call) where
  calls_eq := rfl
  get?_eq := hreplay.symm
  allLegal := ⟨hlegal, trivial⟩
  administrator_eq := rfl
  failing_eq := rfl
  services_eq _ := rfl
  harmless h _ hmem := List.mem_singleton.mp hmem ▸ hrights h

/-- A call with administrator rights that changes the services. -/
theorem Reaches.change {services : ServiceTable} (hlegal : call.IsLegal env.services.get?)
    (hreplay : services.get? = call.replay env.failing env.services.get?)
    (hrights : env.administrator = true) :
    env.Reaches [call] { env.record call with services } where
  calls_eq := rfl
  get?_eq := hreplay
  allLegal := ⟨hlegal, trivial⟩
  administrator_eq := rfl
  failing_eq := rfl
  services_eq h := absurd (h.symm.trans hrights) Bool.false_ne_true
  harmless h := absurd (h.symm.trans hrights) Bool.false_ne_true

end MemoryEnvironment

end ServiceHost
