import ServiceHost.ConfigurationError
import ServiceHost.Event
import ServiceHost.Grammar
import ServiceHost.Service

/-!
# Hosts

There is one host for each mode. A host holds what its mode needs and nothing else: only an
install host knows the start mode, only run and test hosts hold a service.

## Main definitions

* `Host` : a host of one of the modes.
* `HostPlan` : all that a host of any mode may need.
* `HostPlan.build` : the host for the mode of a plan.
-/

namespace ServiceHost

/-- A host of one of the modes. -/
inductive Host where
  /-- Installs the service. -/
  | install (settings : InstallSettings)
  /-- Removes the installed service. -/
  | uninstall (settings : Settings) (mayElevate : Bool)
  /-- Starts the installed service. -/
  | start (settings : Settings) (mayElevate : Bool)
  /-- Stops the running service. -/
  | stop (settings : Settings) (mayElevate : Bool)
  /-- Runs the service in the foreground. -/
  | run (settings : Settings) (service : Service)
  /-- Starts the service and stops it right away. -/
  | test (settings : Settings) (service : Service)
  /-- Shows the usage of the service. -/
  | help (settings : Settings) (introduction : Option String) (custom : List Registration)
  deriving DecidableEq, Repr

namespace Host

/-- The mode of a host. -/
def mode : Host → Mode
  | install _ => .install
  | uninstall _ _ => .uninstall
  | start _ _ => .start
  | stop _ _ => .stop
  | run _ _ => .run
  | test _ _ => .test
  | help _ _ _ => .help

/-- What a host knows about its service. -/
def settings : Host → Settings
  | install settings => settings.host
  | uninstall settings _ => settings
  | start settings _ => settings
  | stop settings _ => settings
  | run settings _ => settings
  | test settings _ => settings
  | help settings _ _ => settings

end Host

/-- All that a host of any mode may need. -/
structure HostPlan where
  /-- The mode of the host. -/
  mode : Mode
  /-- What the host knows about its service. -/
  settings : Settings
  /-- How an installed service is started. -/
  startMode : StartMode := .automatic
  /-- The host may ask for administrator rights. -/
  mayElevate : Bool := false
  /-- The text above the usage. -/
  introduction : Option String := none
  /-- The registered options that the usage lists. -/
  custom : List Registration := []
  deriving Repr

namespace HostPlan

/-- Makes a service for the settings of the plan and puts it into a host. -/
def withService (plan : HostPlan) (factory : Option ServiceFactory)
    (host : Settings → Service → Host) : Except ConfigurationError (Host × List Event) :=
  match factory with
  | none => .error .missingServiceFactory
  | some make => .ok (host plan.settings (make plan.settings), [.created plan.settings])

/-- The host for the mode of the plan. Without a selected mode it is the run host. -/
def build (plan : HostPlan) (factory : Option ServiceFactory) :
    Except ConfigurationError (Host × List Event) :=
  match plan.mode with
  | .install => .ok (.install ⟨plan.settings, plan.startMode, plan.mayElevate⟩, [])
  | .uninstall => .ok (.uninstall plan.settings plan.mayElevate, [])
  | .start => .ok (.start plan.settings plan.mayElevate, [])
  | .stop => .ok (.stop plan.settings plan.mayElevate, [])
  | .help => .ok (.help plan.settings plan.introduction plan.custom, [])
  | .test => plan.withService factory .test
  | .run | .unselected => plan.withService factory .run

end HostPlan

end ServiceHost
