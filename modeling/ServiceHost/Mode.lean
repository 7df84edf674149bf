import ServiceHost.Text.Case

/-!
# Host modes

A mode says what a host does. A mode is selected by its keyword, in any letter case, and only
the first selection counts. Without a selection the host runs the service.
-/

namespace ServiceHost

/-- What a host does. -/
inductive Mode where
  /-- No mode was selected. -/
  | unselected
  /-- Install the service. -/
  | install
  /-- Remove the installed service. -/
  | uninstall
  /-- Start the installed service. -/
  | start
  /-- Stop the running service. -/
  | stop
  /-- Run the service in the foreground. -/
  | run
  /-- Show the usage of the service. -/
  | help
  /-- Start the service and stop it right away. -/
  | test
  deriving DecidableEq, Repr, Inhabited

namespace Mode

/-- The name of a mode. -/
def name : Mode → String
  | unselected => "unselected"
  | install => "install"
  | uninstall => "uninstall"
  | start => "start"
  | stop => "stop"
  | run => "run"
  | help => "help"
  | test => "test"

/-- The words that select a mode. -/
def keywords : List (String × Mode) :=
  [("install", install), ("uninstall", uninstall), ("start", start), ("stop", stop),
    ("run", run), ("console", run), ("help", help), ("debug", test), ("test", test)]

/-- The mode that a word selects, in any letter case. -/
def ofKeyword? (word : String) : Option Mode :=
  (keywords.find? fun (keyword, _) ↦ Text.sameIgnoringCase keyword word).map Prod.snd

/-- The mode that the first selection chose, if there was one. The unselected mode cannot be
chosen. -/
structure Selection where
  /-- The chosen mode. -/
  chosen : Mode := .unselected
  deriving DecidableEq, Repr, Inhabited

namespace Selection

/-- A mode can still be chosen. -/
def isOpen (s : Selection) : Bool := s.chosen == .unselected

/-- A selection of the mode would take effect. -/
def accepts (s : Selection) (mode : Mode) : Bool := s.isOpen && mode != .unselected

/-- Chooses the mode unless another one was chosen before. -/
def select (s : Selection) (mode : Mode) : Selection := if s.accepts mode then ⟨mode⟩ else s

/-- The mode in effect. -/
def resolved (s : Selection) : Mode := if s.isOpen then .run else s.chosen

end Selection

end Mode

end ServiceHost
