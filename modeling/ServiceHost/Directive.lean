import ServiceHost.Mode
import ServiceHost.StartMode

/-!
# Directives

A directive is what one token of an invocation asks for.
-/

namespace ServiceHost

/-- What one token of an invocation asks for. -/
inductive Directive where
  /-- Select a mode. -/
  | mode (mode : Mode)
  /-- A leading argument that is no mode keyword. -/
  | unknownCommand (text : String)
  /-- Name the service. -/
  | serviceName (name : String)
  /-- Set the display name. -/
  | displayName (name : String)
  /-- Name the instance of the service. -/
  | instanceName (name : String)
  /-- Describe the service. -/
  | description (text : String)
  /-- Set the start mode. -/
  | startMode (mode : StartMode)
  /-- Allow a launch with administrator rights. -/
  | allowElevation
  /-- A switch that was registered by the caller. -/
  | customSwitch (name : String) (value : Bool)
  /-- A definition that was registered by the caller. -/
  | customDefinition (name value : String)
  /-- A switch or definition that nothing claims. -/
  | unknown (text : String)
  deriving DecidableEq, Repr

end ServiceHost
