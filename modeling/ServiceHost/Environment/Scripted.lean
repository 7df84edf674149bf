import ServiceHost.Environment.Basic

/-!
# An environment with fixed answers

Every question has one answer and every request one outcome, whatever came before. The requests
are recorded with all that the host hands over.
-/

namespace ServiceHost

/-- A request that the environment has recorded. -/
inductive Request where
  | install (settings : InstallSettings)
  | uninstall (settings : Settings)
  | start (serviceName : String) (timeout : Duration)
  | stop (serviceName : String) (timeout : Duration)
  | elevate
  | waitForShutdown
  deriving DecidableEq, Repr

/-- An environment with fixed answers. A request without a set error is met. -/
structure ScriptedEnvironment where
  /-- The host has administrator rights. -/
  administrator : Bool := false
  /-- Every service is installed. -/
  installed : Bool := false
  /-- Every service is stopped. -/
  stopped : Bool := false
  /-- The host can be launched again with administrator rights. -/
  canElevate : Bool := false
  /-- The error of every installation. -/
  installError : Option EnvironmentError := none
  /-- The error of every removal. -/
  uninstallError : Option EnvironmentError := none
  /-- The error of every start. -/
  startError : Option EnvironmentError := none
  /-- The error of every stop. -/
  stopError : Option EnvironmentError := none
  /-- The requests so far. -/
  requests : List Request := []
  deriving Repr, Inhabited

namespace ScriptedEnvironment

/-- The environment after one more request. -/
def record (env : ScriptedEnvironment) (request : Request) : ScriptedEnvironment :=
  { env with requests := env.requests ++ [request] }

/-- The outcome of a request for which an error may be set. -/
def outcome : Option EnvironmentError → Except EnvironmentError Unit
  | none => .ok ()
  | some error => .error error

instance : Environment ScriptedEnvironment where
  isAdministrator env := env.administrator
  isInstalled env _ := env.installed
  isStopped env _ := env.stopped
  install env settings := (outcome env.installError, env.record (.install settings))
  uninstall env settings := (outcome env.uninstallError, env.record (.uninstall settings))
  start env name timeout := (outcome env.startError, env.record (.start name timeout))
  stop env name timeout := (outcome env.stopError, env.record (.stop name timeout))
  elevate env := (env.canElevate, env.record .elevate)
  waitForShutdown env := env.record .waitForShutdown

end ScriptedEnvironment

end ServiceHost
