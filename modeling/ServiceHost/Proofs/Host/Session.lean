import ServiceHost.Host.Run
import ServiceHost.Proofs.Environment.Replay

/-!
# Sessions of hosts

Hosts run one after the other against the service manager in memory. A host asks the manager for
something only after it has checked that the services allow it and that it has the rights, so a
run makes at most one call, and this call is legal. A session of hosts is therefore accounted for by
the calls that the manager has recorded, however many hosts there are and whatever they find.

## Main definitions

* `HostRun.IsOrderly` : a run whose calls are legal and account for what it did to the services.
* `Host.session` : the runs of hosts one after the other.

## Main results

* `Host.isOrderly_runIn` : every run of a host is orderly.
* `Host.session_replays` : the services at any moment of a session follow from the calls.
-/

namespace ServiceHost

open EnvironmentCall

variable {env : MemoryEnvironment} {name : String}

/-! ### Orderly runs -/

/-- The run has made legal calls that account for the services after it. It never ends
abnormally, and the table is kept unless it ends well. -/
structure HostRun.IsOrderly (env : MemoryEnvironment) (run : HostRun MemoryEnvironment) : Prop where
  /-- Legal calls lead to the environment after the run. -/
  reaches : ∃ calls, env.Reaches calls run.environment
  /-- The run does not end abnormally. -/
  code_ne : run.code ≠ .abnormalExit
  /-- A run that does not end well keeps the table. -/
  services_eq : run.code ≠ .ok → run.environment.services = env.services

namespace HostRun.IsOrderly

variable {code : ExitCode} {events : List Event} {call : EnvironmentCall}

/-- A run that makes no call. -/
theorem idle (hcode : code ≠ .abnormalExit) : IsOrderly env ⟨code, env, events⟩ where
  reaches := ⟨[], .refl env⟩
  code_ne := hcode
  services_eq _ := rfl

/-- A run that makes a call which leaves the services as they are. -/
theorem record (hcode : code ≠ .abnormalExit) (hlegal : call.IsLegal env.services.get?)
    (hreplay : call.replay env.failing env.services.get? = env.services.get?)
    (hrights : env.administrator = false → call.IsHarmless) :
    IsOrderly env ⟨code, env.record call, events⟩ where
  reaches := ⟨[call], .record hlegal hreplay hrights⟩
  code_ne := hcode
  services_eq _ := rfl

/-- A run that makes a call with administrator rights and ends well. -/
theorem change {services : ServiceTable} (hlegal : call.IsLegal env.services.get?)
    (hreplay : services.get? = call.replay env.failing env.services.get?)
    (hrights : env.administrator = true) :
    IsOrderly env ⟨.ok, { env.record call with services }, events⟩ where
  reaches := ⟨[call], .change hlegal hreplay hrights⟩
  code_ne := nofun
  services_eq h := absurd rfl h

end HostRun.IsOrderly

/-! ### The questions of a host -/

namespace MemoryEnvironment

theorem get?_of_not_isInstalled (h : ¬ Environment.isInstalled env name) :
    env.services.get? name = none :=
  ServiceTable.contains_eq_false.mp (eq_false_of_ne_true h)

/-- An installed service that is not stopped runs. -/
theorem get?_of_not_isStopped (hinstalled : Environment.isInstalled env name)
    (hstopped : ¬ Environment.isStopped env name) : env.services.get? name = some true := by
  have hstopped : ¬ (env.services.get? name == some false) = true := hstopped
  rw [beq_iff_eq] at hstopped
  cases hname : env.services.get? name with
  | none => exact absurd hname (ServiceTable.contains_eq_true.mp hinstalled)
  | some running =>
    cases running with
    | true => rfl
    | false => exact absurd hname hstopped

/-- A service that is not installed is added. -/
theorem install_of_absent {settings : InstallSettings}
    (h : ¬ Environment.isInstalled env settings.host.serviceName) :
    Environment.install env settings =
      (.ok (), { env.record (.install settings.host.serviceName settings.startMode) with
        services := env.services.insert settings.host.serviceName false }) :=
  if_neg h

/-- A service that is installed is removed. -/
theorem uninstall_of_present {settings : Settings}
    (h : Environment.isInstalled env settings.serviceName) :
    Environment.uninstall env settings =
      (.ok (), { env.record (.uninstall settings.serviceName) with
        services := env.services.erase settings.serviceName }) :=
  if_pos h

/-- A service that refuses is left as it is. -/
theorem setRunning_of_failing {call : EnvironmentCall} {running : Bool} (h : name ∈ env.failing) :
    (env.record call).setRunning name running =
      (.error (.failed ("service '" ++ name ++ "' refused the request")), env.record call) :=
  if_pos (List.contains_iff_mem.mpr h)

/-- Any other installed service is made to run or not. -/
theorem setRunning_of_present {call : EnvironmentCall} {running : Bool} (h : name ∉ env.failing)
    (hpresent : env.services.get? name ≠ none) :
    (env.record call).setRunning name running =
      (.ok (), { env.record call with services := env.services.insert name running }) := by
  have hcontains : (env.record call).services.contains name = true :=
    ServiceTable.contains_eq_true.mpr hpresent
  have hrefuses : ¬ (env.record call).failing.contains name := mt List.contains_iff_mem.mp h
  rw [setRunning, if_neg hrefuses, if_pos hcontains]
  rfl

theorem get?_of_isStopped (h : Environment.isStopped env name) :
    env.services.get? name = some false :=
  beq_iff_eq.mp h

end MemoryEnvironment

/-! ### The hosts one by one -/

namespace Host

open HostRun MemoryEnvironment

/-- Without administrator rights a host asks for nothing but the rights. -/
theorem isOrderly_asAdministrator {mayElevate : Bool} {action : String}
    {work : MemoryEnvironment → HostRun MemoryEnvironment}
    (hwork : env.administrator = true → IsOrderly env (work env)) :
    IsOrderly env (asAdministrator env mayElevate action name work) := by
  have hcode : ExitCode.sudoRequired ≠ .abnormalExit := nofun
  rw [asAdministrator]
  split_ifs with hrights helevate
  · exact hwork hrights
  · have hharmless : env.administrator = false → elevate.IsHarmless := fun _ ↦ .inl rfl
    change IsOrderly env (if env.canElevate then ⟨.ok, env.record .elevate, _⟩
      else ⟨.sudoRequired, env.record .elevate, _⟩)
    split_ifs
    · exact .record nofun trivial rfl hharmless
    · exact .record hcode trivial rfl hharmless
  · exact .idle hcode

/-- A legal request to start or to stop is met, or refused by the service. -/
theorem isOrderly_setRunning (name : String) {call : EnvironmentCall} {running : Bool}
    {success : List Event} {failure : ExitCode} {activity : String}
    (hfailure : failure ≠ .abnormalExit) (hlegal : call.IsLegal env.services.get?)
    (hpresent : env.services.get? name ≠ none)
    (hreplay : call.replay env.failing env.services.get? =
      if name ∈ env.failing then env.services.get?
      else Function.update env.services.get? name (some running))
    (hrights : env.administrator = true) :
    IsOrderly env (conclude ((env.record call).setRunning name running) success failure
      activity) := by
  by_cases hrefuses : name ∈ env.failing
  · rw [if_pos hrefuses] at hreplay
    rw [setRunning_of_failing hrefuses]
    exact .record hfailure hlegal hreplay fun h ↦ absurd (h.symm.trans hrights) Bool.false_ne_true
  · rw [if_neg hrefuses] at hreplay
    rw [setRunning_of_present hrefuses hpresent]
    exact .change hlegal ((ServiceTable.get?_insert ..).trans hreplay.symm) hrights

theorem isOrderly_runInstall (settings : InstallSettings) (env : MemoryEnvironment) :
    IsOrderly env (runInstall settings env) := by
  rw [runInstall]
  split_ifs with hinstalled
  · exact .idle nofun
  · refine isOrderly_asAdministrator fun hrights ↦ ?_
    rw [install_of_absent hinstalled]
    exact .change (get?_of_not_isInstalled hinstalled) (ServiceTable.get?_insert ..) hrights

theorem isOrderly_runUninstall (settings : Settings) (mayElevate : Bool)
    (env : MemoryEnvironment) : IsOrderly env (runUninstall settings mayElevate env) := by
  simp only [runUninstall, Bool.not_eq_true']
  split_ifs with habsent
  · exact .idle nofun
  · have hpresent := eq_true_of_ne_false habsent
    refine isOrderly_asAdministrator fun hrights ↦ ?_
    rw [uninstall_of_present hpresent]
    exact .change (ServiceTable.contains_eq_true.mp hpresent) (ServiceTable.get?_erase ..) hrights

theorem isOrderly_runStart (settings : Settings) (mayElevate : Bool) (env : MemoryEnvironment) :
    IsOrderly env (runStart settings mayElevate env) := by
  simp only [runStart, Bool.not_eq_true']
  split_ifs with habsent hrunning
  · exact .idle nofun
  · exact .idle nofun
  · refine isOrderly_asAdministrator fun hrights ↦ ?_
    have hstopped := get?_of_isStopped (eq_true_of_ne_false hrunning)
    refine isOrderly_setRunning settings.serviceName nofun hstopped ?_ rfl hrights
    rw [hstopped]
    exact nofun

theorem isOrderly_runStop (settings : Settings) (mayElevate : Bool) (env : MemoryEnvironment) :
    IsOrderly env (runStop settings mayElevate env) := by
  simp only [runStop, Bool.not_eq_true']
  split_ifs with habsent hstopped
  · exact .idle nofun
  · exact .idle nofun
  · refine isOrderly_asAdministrator fun hrights ↦ ?_
    have hrunning := get?_of_not_isStopped (eq_true_of_ne_false habsent) hstopped
    refine isOrderly_setRunning settings.serviceName nofun hrunning ?_ rfl hrights
    rw [hrunning]
    exact nofun

/-- In the foreground a host asks the manager for nothing and waits at most once. -/
theorem isOrderly_runForeground (settings : Settings) (service : Service)
    (env : MemoryEnvironment) : IsOrderly env (runForeground settings service env) := by
  rw [runForeground]
  split_ifs
  · exact .idle nofun
  · exact .idle nofun
  · exact .record nofun trivial rfl fun _ ↦ .inr rfl
  · exact .record nofun trivial rfl fun _ ↦ .inr rfl

theorem isOrderly_runTest (settings : Settings) (service : Service) (env : MemoryEnvironment) :
    IsOrderly env (runTest settings service env) := by
  rw [runTest]
  split_ifs <;> exact .idle nofun

theorem isOrderly_perform (host : Host) (env : MemoryEnvironment) :
    IsOrderly env (host.perform env) := by
  cases host with
  | install settings => exact isOrderly_runInstall settings env
  | uninstall settings mayElevate => exact isOrderly_runUninstall settings mayElevate env
  | start settings mayElevate => exact isOrderly_runStart settings mayElevate env
  | stop settings mayElevate => exact isOrderly_runStop settings mayElevate env
  | run settings service => exact isOrderly_runForeground settings service env
  | test settings service => exact isOrderly_runTest settings service env
  | help settings introduction custom => exact .idle nofun

/-- Every run of a host is orderly. The messages on its begin and end are not for the manager. -/
theorem isOrderly_runIn (host : Host) (env : MemoryEnvironment) :
    IsOrderly env (host.runIn env) where
  reaches := (isOrderly_perform host env).reaches
  code_ne := (isOrderly_perform host env).code_ne
  services_eq := (isOrderly_perform host env).services_eq

/-! ### Sessions -/

/-- One run of a session: the environment that the host found, and its run. -/
structure SessionStep where
  /-- The environment before the run. -/
  before : MemoryEnvironment
  /-- The run. -/
  run : HostRun MemoryEnvironment

/-- The runs of hosts one after the other. -/
def session (env : MemoryEnvironment) : List Host → List SessionStep
  | [] => []
  | host :: hosts => ⟨env, host.runIn env⟩ :: session (host.runIn env).environment hosts

variable {hosts : List Host} {step : SessionStep}

/-- Every run of a session is the run of a host in the environment that it found. -/
theorem isOrderly_of_mem_session (h : step ∈ session env hosts) :
    IsOrderly step.before step.run := by
  induction hosts generalizing env with
  | nil => exact absurd h List.not_mem_nil
  | cons host hosts ih =>
    rcases List.mem_cons.mp h with rfl | h
    · exact isOrderly_runIn host env
    · exact ih h

/-- Legal calls lead to the environment after every run of a session. -/
theorem reaches_of_mem_session (h : step ∈ session env hosts) :
    ∃ calls, env.Reaches calls step.run.environment := by
  induction hosts generalizing env with
  | nil => exact absurd h List.not_mem_nil
  | cons host hosts ih =>
    obtain ⟨calls, hcalls⟩ := (isOrderly_runIn host env).reaches
    rcases List.mem_cons.mp h with rfl | h
    · exact ⟨calls, hcalls⟩
    · obtain ⟨following, hfollowing⟩ := ih h
      exact ⟨calls ++ following, hcalls.trans hfollowing⟩

/-- In every session the record of calls only grows, and after every run the services are those
that the calls since the beginning lead to, each of them legal when its turn came. No run ends
abnormally, and one that does not end well keeps the table. Without administrator rights the table
is kept throughout, and no call but the request for the rights and the wait for a shutdown is
made. -/
theorem session_replays (h : step ∈ session env hosts) :
    (step.before.calls <+: step.run.environment.calls ∧
      ∃ calls, step.run.environment.calls = env.calls ++ calls ∧
        step.run.environment.services.get? = replayAll env.failing env.services.get? calls ∧
        AllLegal env.failing env.services.get? calls ∧
        (env.administrator = false → ∀ call ∈ calls, call = .elevate ∨ call = .waitForShutdown)) ∧
      step.run.code ≠ .abnormalExit ∧
      (step.run.code ≠ .ok → step.run.environment.services = step.before.services) ∧
      (env.administrator = false → step.run.environment.services = env.services) := by
  have horderly := isOrderly_of_mem_session h
  obtain ⟨latest, hlatest⟩ := horderly.reaches
  obtain ⟨calls, hcalls⟩ := reaches_of_mem_session h
  refine ⟨⟨⟨latest, hlatest.calls_eq.symm⟩, calls, hcalls.calls_eq, hcalls.get?_eq,
    hcalls.allLegal, hcalls.harmless⟩, horderly.code_ne, horderly.services_eq, hcalls.services_eq⟩

/-- A service is installed and started, and another one refuses to start. -/
theorem session_replays_refusal :
    let env : MemoryEnvironment := { services := ⟨[("a", false)]⟩, failing := ["a"] }
    let hosts : List Host := [.install ⟨.ofName "b", .manual, false⟩, .start (.ofName "b") false,
      .start (.ofName "a") false]
    let calls : List EnvironmentCall := [.install "b" .manual, .start "b", .start "a"]
    ∃ step ∈ session env hosts, step.run.code = .startServiceFailed ∧
      step.run.environment.calls = calls ∧ AllLegal ["a"] env.services.get? calls ∧
      step.run.environment.services.get? = replayAll ["a"] env.services.get? calls ∧
      step.run.environment.services = step.before.services := by
  intro env hosts calls
  have hmem : (session env hosts)[2] ∈ session env hosts := List.getElem_mem _
  have hcode : (session env hosts)[2].run.code = .startServiceFailed := by decide
  have hrecorded : (session env hosts)[2].run.environment.calls = calls := by decide
  obtain ⟨⟨-, replayed, hreplayed, hservices, hlegal, -⟩, -, hkept, -⟩ := session_replays hmem
  obtain rfl : replayed = calls := hreplayed.symm.trans hrecorded
  exact ⟨_, hmem, hcode, hrecorded, hlegal, hservices, hkept (hcode ▸ nofun)⟩

end Host

end ServiceHost
