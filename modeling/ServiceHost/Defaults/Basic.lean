import ServiceHost.StartMode

/-!
# Defaults

The values that a configuration begins with, before the program and the command line change
them.
-/

namespace ServiceHost

/-- The default values of a configuration. -/
structure Defaults where
  /-- The name of the service. -/
  name : String
  /-- The explicit display name, or nothing. -/
  displayName : String
  /-- What the service is for. -/
  description : String
  /-- The name of the instance, or nothing. -/
  instanceName : String
  /-- How an installed service is started. -/
  startMode : StartMode
  /-- The seconds that the service may take to start. -/
  startTimeoutSeconds : Nat
  /-- The seconds that the service may take to stop. -/
  stopTimeoutSeconds : Nat
  deriving DecidableEq, Repr, Inhabited

end ServiceHost
