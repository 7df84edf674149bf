import ServiceHost.Environment.Basic
import ServiceHost.ExitCode
import ServiceHost.Host.Basic
import ServiceHost.Host.Help

/-!
# Running a host

A host runs against an environment and ends with an exit code. The hosts that change the
service manager first check the state of the service and then the rights of the host. Without
administrator rights such a host may ask to be launched again with them; the launched host does
the work.

## Main definitions

* `HostRun` : how a run ended, the environment after it and what others saw of it.
* `Host.runIn` : the run of a host against an environment.
-/

namespace ServiceHost

/-- How a run ended, the environment after it and what others saw of it. -/
structure HostRun (σ : Type) where
  /-- The exit code. -/
  code : ExitCode
  /-- The environment after the run. -/
  environment : σ
  /-- What others saw, in order. -/
  events : List Event := []

namespace Host

variable {σ : Type} [Environment σ]

/-- The text about a service. -/
def about (serviceName text : String) : String := "The '" ++ serviceName ++ "' service " ++ text

/-- Does the work with administrator rights. A host without them may only ask to be launched
again. -/
def asAdministrator (env : σ) (mayElevate : Bool) (action serviceName : String)
    (work : σ → HostRun σ) : HostRun σ :=
  let refuse (env : σ) : HostRun σ :=
    ⟨.sudoRequired, env,
      [.error (about serviceName ("can only be " ++ action ++ " by an administrator"))]⟩
  if Environment.isAdministrator env then work env
  else if mayElevate then
    let (launched, env) := Environment.elevate env
    if launched then
      ⟨.ok, env, [.info ("Re-launched elevated to " ++ action ++ " '" ++ serviceName ++ "'")]⟩
    else refuse env
  else refuse env

/-- The end of a run with one request: the events of success, or an exit code for the error. -/
def conclude (result : Except EnvironmentError Unit × σ) (success : List Event)
    (failure : ExitCode) (activity : String) : HostRun σ :=
  match result with
  | (.ok (), env) => ⟨.ok, env, success⟩
  | (.error error, env) => ⟨failure, env, [.error (activity ++ " failed: " ++ error.message)]⟩

/-- Installs a service that is not installed yet. -/
def runInstall (settings : InstallSettings) (env : σ) : HostRun σ :=
  let name := settings.host.serviceName
  if Environment.isInstalled env name then
    ⟨.serviceAlreadyInstalled, env, [.error (about name "is already installed")]⟩
  else
    asAdministrator env settings.mayElevate "installed" name fun env ↦
      conclude (Environment.install env settings) [] .abnormalExit "Install"

/-- The end of a run for a service that is not installed. -/
def notInstalled (name : String) (env : σ) : HostRun σ :=
  ⟨.serviceNotInstalled, env, [.error (about name "is not installed")]⟩

/-- Removes an installed service. -/
def runUninstall (settings : Settings) (mayElevate : Bool) (env : σ) : HostRun σ :=
  let name := settings.serviceName
  if !Environment.isInstalled env name then notInstalled name env
  else
    asAdministrator env mayElevate "uninstalled" name fun env ↦
      conclude (Environment.uninstall env settings) [] .abnormalExit "Uninstall"

/-- Starts an installed service that is stopped. -/
def runStart (settings : Settings) (mayElevate : Bool) (env : σ) : HostRun σ :=
  let name := settings.serviceName
  if !Environment.isInstalled env name then notInstalled name env
  else if !Environment.isStopped env name then
    ⟨.serviceAlreadyRunning, env, [.info (about name "is already running")]⟩
  else
    asAdministrator env mayElevate "started" name fun env ↦
      conclude (Environment.start env name settings.startTimeout)
        [.info (about name "was started")] .startServiceFailed "Start"

/-- Stops an installed service that is not stopped. -/
def runStop (settings : Settings) (mayElevate : Bool) (env : σ) : HostRun σ :=
  let name := settings.serviceName
  if !Environment.isInstalled env name then notInstalled name env
  else if Environment.isStopped env name then
    ⟨.serviceNotRunning, env, [.info (about name "is not running")]⟩
  else
    asAdministrator env mayElevate "stopped" name fun env ↦
      conclude (Environment.stop env name settings.stopTimeout)
        [.info (about name "was stopped")] .stopServiceFailed "Stop"

/-- Runs a service in the foreground until a shutdown is asked for, unless the service manager
runs it already. -/
def runForeground (settings : Settings) (service : Service) (env : σ) : HostRun σ :=
  let name := settings.serviceName
  if Environment.isInstalled env name && !Environment.isStopped env name then
    ⟨.serviceAlreadyRunning, env,
      [.error (about name "is already running under the service manager")]⟩
  else if !service.starts then
    ⟨.startServiceFailed, env, [.started, .error (about name "failed to start")]⟩
  else
    let running := [.started, .info (about name "is running"), .stopped]
    let env := Environment.waitForShutdown env
    if !service.stops then
      ⟨.stopServiceFailed, env, running ++ [.error (about name "failed to stop")]⟩
    else ⟨.ok, env, running⟩

/-- Starts a service and stops it right away. -/
def runTest (settings : Settings) (service : Service) (env : σ) : HostRun σ :=
  let name := settings.serviceName
  if !service.starts then
    ⟨.startServiceFailed, env, [.started, .error (about name "failed to start")]⟩
  else if !service.stops then
    ⟨.stopServiceFailed, env, [.started, .stopped, .error (about name "failed to stop")]⟩
  else ⟨.ok, env, [.started, .stopped, .info (about name "started and stopped")]⟩

/-- Prints the usage of a service. -/
def runHelp (introduction : Option String) (custom : List Registration) (env : σ) : HostRun σ :=
  ⟨.ok, env, [.printed (Usage.render introduction custom ++ "\n")]⟩

/-- The run of a host, without the messages on its begin and end. -/
def perform (host : Host) (env : σ) : HostRun σ :=
  match host with
  | install settings => runInstall settings env
  | uninstall settings mayElevate => runUninstall settings mayElevate env
  | start settings mayElevate => runStart settings mayElevate env
  | stop settings mayElevate => runStop settings mayElevate env
  | run settings service => runForeground settings service env
  | test settings service => runTest settings service env
  | help _ introduction custom => runHelp introduction custom env

/-- The run of a host against an environment. -/
def runIn (host : Host) (env : σ) : HostRun σ :=
  let begun := Event.info
    ("Running " ++ host.mode.name ++ " host for '" ++ host.settings.serviceName ++ "'")
  let done := host.perform env
  let ended :=
    if done.code.isOk then []
    else [.error (host.mode.name ++ " host finished with " ++ done.code.text)]
  { done with events := begun :: done.events ++ ended }

end Host

end ServiceHost
