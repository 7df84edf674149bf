import ServiceHost.Duration
import ServiceHost.Settings.Naming
import ServiceHost.StartMode

/-!
# Settings of a host

The settings are what a host is built from: the names, given and derived, and the timeouts. An
install host also needs the start mode and the permission to ask for administrator rights.
-/

namespace ServiceHost

/-- What a host of any mode knows about its service. -/
structure Settings where
  /-- The name as given. -/
  name : String
  /-- The name shown to users. -/
  displayName : String
  /-- What the service is for. -/
  description : String
  /-- The name of the instance, or nothing. -/
  instanceName : String
  /-- The name under which the service is installed. -/
  serviceName : String
  /-- How long the service may take to start. -/
  startTimeout : Duration
  /-- How long the service may take to stop. -/
  stopTimeout : Duration
  deriving DecidableEq, Repr, Inhabited

namespace Settings

/-- How long a service may take to start or to stop unless something else is said. -/
def defaultTimeout : Duration := .ofSeconds 10

/-- The settings of a service of which only the name is known. -/
def ofName (name : String) : Settings where
  name
  displayName := name
  description := ""
  instanceName := ""
  serviceName := name
  startTimeout := defaultTimeout
  stopTimeout := defaultTimeout

/-- The settings with another instance. The names are derived anew, after the note for the old
instance is dropped. -/
def withInstance (s : Settings) (instanceName : String) : Settings :=
  { s with
    instanceName
    serviceName := Naming.serviceName s.name instanceName
    displayName := Naming.displayName s.name
      (Naming.withoutNote s.displayName s.instanceName) instanceName }

end Settings

/-- What an install host knows about its service. -/
structure InstallSettings where
  /-- The settings of the service. -/
  host : Settings
  /-- How the installed service is started. -/
  startMode : StartMode
  /-- The host may ask for administrator rights. -/
  mayElevate : Bool
  deriving DecidableEq, Repr, Inhabited

end ServiceHost
