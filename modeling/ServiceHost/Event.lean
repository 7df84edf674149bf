import ServiceHost.Settings.Basic

/-!
# Events

What a step of configuring or running a host lets others see, in order.
-/

namespace ServiceHost

/-- How serious a message is. -/
inductive Severity where
  | info
  | warn
  | error
  deriving DecidableEq, Repr

/-- The name of a severity. -/
def Severity.name : Severity → String
  | info => "info"
  | warn => "warn"
  | error => "error"

/-- Something that others see of a step. -/
inductive Event where
  /-- A message for the log. -/
  | logged (severity : Severity) (message : String)
  /-- A switch was handed to the handler with this number. -/
  | switched (handler : Nat) (value : Bool)
  /-- A definition was handed to the handler with this number. -/
  | defined (handler : Nat) (value : String)
  /-- A service was made for the settings. -/
  | created (settings : Settings)
  /-- The service was asked to start. -/
  | started
  /-- The service was asked to stop. -/
  | stopped
  /-- A text was printed. -/
  | printed (text : String)
  deriving DecidableEq, Repr

namespace Event

/-- A message on what was done. -/
def info (message : String) : Event := .logged .info message

/-- A message on what was ignored. -/
def warn (message : String) : Event := .logged .warn message

/-- A message on what went wrong. -/
def error (message : String) : Event := .logged .error message

end Event

end ServiceHost
