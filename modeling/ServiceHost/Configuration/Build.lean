import ServiceHost.Configuration.Basic
import ServiceHost.ConfigurationError
import ServiceHost.Host.Basic

/-!
# Building a host

A configuration becomes a host when it has a name, when the name and the derived display name
are clean, and when something makes the service.

## Main definitions

* `Configuration.validate` : the first reason why there is no host, if there is one.
* `Configuration.build` : the host for the mode in effect.
-/

namespace ServiceHost

/-- A host or the reason why there is none, with what others saw. -/
structure BuildOutcome where
  /-- The host. -/
  host : Except ConfigurationError Host
  /-- What others saw, in order. -/
  events : List Event := []

namespace Configuration

/-- A character that may not stand in a name. -/
def isForbidden (c : Char) : Bool := ['\t', '\r', '\n', '\\', '/'].contains c

/-- The name contains no character that may not stand in a name. -/
def isClean (name : String) : Bool := !name.toList.any isForbidden

/-- Refuses a name that is not clean. -/
def checkName (field : NameField) (value : String) : Except ConfigurationError Unit :=
  if isClean value then .ok () else .error (.invalidName field value)

/-- Checks that the configuration can become a host. -/
def validate (c : Configuration) : Except ConfigurationError Unit := do
  if c.name.isEmpty then throw .missingName
  checkName .name c.settings.name
  checkName .displayName c.settings.displayName
  if c.factory.isNone then throw .missingServiceFactory

/-- All that a host of the configuration may need. -/
def plan (c : Configuration) : HostPlan where
  mode := c.mode
  settings := c.settings
  startMode := c.startMode
  mayElevate := c.mayElevate
  introduction := c.helpText
  custom := c.grammar.registrations

/-- The note that a host is about to be built. -/
def configured (c : Configuration) : Event :=
  .info ("Configured '" ++ c.settings.serviceName ++ "' (" ++ c.settings.displayName ++
    ") for " ++ c.mode.name)

/-- The host for the mode in effect. -/
def build (c : Configuration) : BuildOutcome :=
  match c.validate with
  | .error error => ⟨.error error, []⟩
  | .ok () =>
    match c.plan.build c.factory with
    | .error error => ⟨.error error, [c.configured]⟩
    | .ok (host, events) => ⟨.ok host, c.configured :: events⟩

end Configuration

end ServiceHost
