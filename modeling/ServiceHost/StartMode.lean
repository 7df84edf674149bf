/-!
# Start modes

A start mode says how an installed service is started.
-/

namespace ServiceHost

/-- How an installed service is started. -/
inductive StartMode where
  /-- With the system. -/
  | automatic
  /-- With the system, after a delay. -/
  | automaticDelayed
  /-- On request. -/
  | manual
  /-- Never. -/
  | disabled
  deriving DecidableEq, Repr, Inhabited

namespace StartMode

/-- The name of a start mode in documents and reports. -/
def name : StartMode → String
  | automatic => "automatic"
  | automaticDelayed => "automatic-delayed"
  | manual => "manual"
  | disabled => "disabled"

/-- The word for a start mode in a text report. -/
def title : StartMode → String
  | automatic => "Automatic"
  | automaticDelayed => "AutomaticDelayed"
  | manual => "Manual"
  | disabled => "Disabled"

/-- All start modes. -/
def all : List StartMode := [automatic, automaticDelayed, manual, disabled]

/-- The start mode of the given name. -/
def ofName? (text : String) : Option StartMode := all.find? fun mode ↦ mode.name == text

end StartMode

end ServiceHost
