import ServiceHost.Defaults.Basic
import ServiceHost.Grammar
import ServiceHost.Service

/-!
# Configurations

A configuration collects names, timeouts, handlers and the mode from defaults, from the program
and from the command line. Names are kept as given; the derived ones are formed when settings
are asked for.

## Main definitions

* `Configuration` : what was collected so far.
* `Configuration.settings` : the settings that the collected values amount to.
-/

namespace ServiceHost

/-- A handler of a registered option: the name of the option and the number of the handler. -/
structure Handler where
  /-- The name of the registered option. -/
  name : String
  /-- The number that events carry. -/
  number : Nat
  deriving DecidableEq, Repr

/-- What was collected for a host. -/
structure Configuration where
  /-- The name of the service. -/
  name : String := ""
  /-- The explicit display name, or nothing. -/
  displayName : String := ""
  /-- What the service is for. -/
  description : String := ""
  /-- The name of the instance, or nothing. -/
  instanceName : String := ""
  /-- How an installed service is started. -/
  startMode : StartMode := .automatic
  /-- The host may ask for administrator rights. -/
  mayElevate : Bool := false
  /-- How long the service may take to start. -/
  startTimeout : Duration := Settings.defaultTimeout
  /-- How long the service may take to stop. -/
  stopTimeout : Duration := Settings.defaultTimeout
  /-- The mode, once it was selected. -/
  selection : Mode.Selection := ⟨.unselected⟩
  /-- The built-in and the registered options. -/
  grammar : Grammar := ⟨[], none⟩
  /-- The handlers of the registered switches. -/
  switchHandlers : List Handler := []
  /-- The handlers of the registered definitions. -/
  definitionHandlers : List Handler := []
  /-- What makes the service. -/
  factory : Option ServiceFactory := none
  /-- The text above the usage. -/
  helpText : Option String := none

namespace Configuration

/-- A configuration that begins with the given defaults. -/
def ofDefaults (defaults : Defaults) : Configuration where
  name := defaults.name
  displayName := defaults.displayName
  description := defaults.description
  instanceName := defaults.instanceName
  startMode := defaults.startMode
  startTimeout := .ofSeconds defaults.startTimeoutSeconds
  stopTimeout := .ofSeconds defaults.stopTimeoutSeconds

/-- Registers a switch with the number of its handler. -/
def addSwitch (c : Configuration) (name : String) (number : Nat) : Configuration :=
  { c with
    grammar := c.grammar.addSwitch name
    switchHandlers := c.switchHandlers ++ [⟨name, number⟩] }

/-- Registers a definition with the number of its handler. -/
def addDefinition (c : Configuration) (key : String) (number : Nat) : Configuration :=
  { c with
    grammar := c.grammar.addDefinition key
    definitionHandlers := c.definitionHandlers ++ [⟨key, number⟩] }

/-- The mode in effect. -/
def mode (c : Configuration) : Mode := c.selection.resolved

/-- Selects the mode unless one was selected before. -/
def selectMode (c : Configuration) (mode : Mode) : Configuration :=
  { c with selection := c.selection.select mode }

/-- The settings that the collected values amount to. -/
def settings (c : Configuration) : Settings where
  name := c.name
  displayName := Naming.displayName c.name c.displayName c.instanceName
  description := c.description
  instanceName := c.instanceName
  serviceName := Naming.serviceName c.name c.instanceName
  startTimeout := c.startTimeout
  stopTimeout := c.stopTimeout

/-- The settings with the start mode and the permission to ask for administrator rights. -/
def installSettings (c : Configuration) : InstallSettings := ⟨c.settings, c.startMode, c.mayElevate⟩

end Configuration

end ServiceHost
