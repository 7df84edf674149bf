import ServiceHost.Settings.Basic

/-!
# Environments

A host changes the world only through an environment: the service manager, the question for
administrator rights and the wait for a shutdown. An environment is a value, and a request
yields the environment after it.
-/

namespace ServiceHost

/-- A state that a service did not reach in time. -/
inductive AwaitedState where
  | running
  | stopped
  deriving DecidableEq, Repr

/-- The word for an awaited state. -/
def AwaitedState.word : AwaitedState → String
  | running => "running"
  | stopped => "stopped"

/-- Why an environment did not meet a request. -/
inductive EnvironmentError where
  /-- There is no such service. -/
  | notInstalled (serviceName : String)
  /-- There already is such a service. -/
  | alreadyInstalled (serviceName : String)
  /-- The service took too long. -/
  | timeout (serviceName : String) (awaited : AwaitedState)
  /-- Any other cause. -/
  | failed (text : String)
  deriving DecidableEq, Repr

/-- The text of an error. -/
def EnvironmentError.message : EnvironmentError → String
  | notInstalled serviceName => "service '" ++ serviceName ++ "' is not installed"
  | alreadyInstalled serviceName => "service '" ++ serviceName ++ "' is already installed"
  | timeout serviceName awaited =>
    "service '" ++ serviceName ++ "' did not reach the " ++ awaited.word ++ " state in time"
  | failed text => text

/-- What a host can ask of its environment. -/
class Environment (σ : Type) where
  /-- The host has administrator rights. -/
  isAdministrator : σ → Bool
  /-- A service of this name is installed. -/
  isInstalled : σ → String → Bool
  /-- A service of this name is installed and not running. -/
  isStopped : σ → String → Bool
  /-- Installs a service. -/
  install : σ → InstallSettings → Except EnvironmentError Unit × σ
  /-- Removes a service. -/
  uninstall : σ → Settings → Except EnvironmentError Unit × σ
  /-- Starts a service. -/
  start : σ → String → Duration → Except EnvironmentError Unit × σ
  /-- Stops a service. -/
  stop : σ → String → Duration → Except EnvironmentError Unit × σ
  /-- Launches the host again with administrator rights, if that is possible. -/
  elevate : σ → Bool × σ
  /-- Waits until the host is asked to shut down. -/
  waitForShutdown : σ → σ

end ServiceHost
