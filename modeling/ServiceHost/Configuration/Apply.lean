import ServiceHost.Configuration.Basic
import ServiceHost.ConfigurationError
import ServiceHost.Event

/-!
# Applying a command line

The directives of a command line are applied to a configuration one after the other. The first
directive that cannot be applied ends this, and the directives before it stay applied.

## Main definitions

* `Configuration.apply` : the effect of one directive.
* `Configuration.applyAll` : the effect of directives in order.
* `Configuration.applyCommandLine` : the effect of the directives of a text.
-/

namespace ServiceHost

/-- A configuration after directives were applied to it. -/
structure Applied where
  /-- The configuration with what was applied. -/
  configuration : Configuration
  /-- What others saw, in order. -/
  events : List Event := []
  /-- Why the rest was not applied. -/
  error? : Option ConfigurationError := none

namespace Configuration

/-- The number of the first handler with the name. -/
def handler? (handlers : List Handler) (name : String) : Option Nat :=
  (handlers.find? fun handler ↦ handler.name == name).map Handler.number

/-- The call of the handler of a switch, if there is one. -/
def invokeSwitch (c : Configuration) (name : String) (value : Bool) : List Event :=
  ((handler? c.switchHandlers name).map fun number ↦ Event.switched number value).toList

/-- The call of the handler of a definition, if there is one. -/
def invokeDefinition (c : Configuration) (name value : String) : List Event :=
  ((handler? c.definitionHandlers name).map fun number ↦ Event.defined number value).toList

/-- The note that a mode was selected too late. -/
def ignoredMode (c : Configuration) (mode : Mode) : Event :=
  .warn ("Ignoring mode '" ++ mode.name ++ "': '" ++ c.mode.name ++ "' was already selected")

/-- The effect of one directive. -/
def apply (c : Configuration) : Directive → Applied
  | .mode mode =>
    if c.selection.accepts mode then ⟨c.selectMode mode, [], none⟩
    else ⟨c, [c.ignoredMode mode], none⟩
  | .unknownCommand text => ⟨c, [], some (.unknownCommand text)⟩
  | .serviceName name => ⟨{ c with name }, [], none⟩
  | .displayName displayName => ⟨{ c with displayName }, [], none⟩
  | .instanceName instanceName => ⟨{ c with instanceName }, [], none⟩
  | .description description => ⟨{ c with description }, [], none⟩
  | .startMode startMode => ⟨{ c with startMode }, [], none⟩
  | .allowElevation => ⟨{ c with mayElevate := true }, [], none⟩
  | .customSwitch name value => ⟨c, c.invokeSwitch name value, none⟩
  | .customDefinition name value => ⟨c, c.invokeDefinition name value, none⟩
  | .unknown text => ⟨c, [.warn ("Ignoring unknown command-line option " ++ text)], none⟩

/-- The effect of directives in order, up to the first that cannot be applied. -/
def applyAll (c : Configuration) : List Directive → Applied
  | [] => ⟨c, [], none⟩
  | directive :: directives =>
    let applied := c.apply directive
    match applied.error? with
    | some _ => applied
    | none =>
      let following := applied.configuration.applyAll directives
      { following with events := applied.events ++ following.events }

/-- The effect of a command line. The compiled grammar is kept for the next one. -/
def applyCommandLine (c : Configuration) (text : String) : Applied :=
  let c := { c with grammar := c.grammar.prepare }
  let applied := c.applyAll (c.grammar.parse text)
  match applied.error? with
  | some _ => applied
  | none =>
    let selected := Event.info ("Selected mode '" ++ applied.configuration.mode.name ++ "'")
    { applied with events := applied.events ++ [selected] }

end Configuration

end ServiceHost
