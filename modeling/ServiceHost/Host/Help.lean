import ServiceHost.Grammar

/-!
# The usage of a service

The usage lists the verbs, the built-in options and the registered options of a service, below
an introduction of the caller.
-/

namespace ServiceHost.Usage

/-- The verbs and what they do. -/
def verbs : List (String × String) :=
  [("run", "Run the service in the foreground (default)"),
    ("console", "Same as run"),
    ("test", "Start the service, then stop it right away"),
    ("help", "Show this help"),
    ("install", "Install the service"),
    ("uninstall", "Uninstall the service"),
    ("start", "Start the installed service"),
    ("stop", "Stop the running service")]

/-- The built-in options and what they do. -/
def options : List (String × String) :=
  [("-servicename", "Service name"),
    ("-instance", "Instance name, appended to the service name"),
    ("-displayname", "Display name"),
    ("-description", "Description"),
    ("--autostart", "Start automatically (install default)"),
    ("--delayed", "Start automatically after a delay"),
    ("--manual", "Start manually"),
    ("--disabled", "Install disabled"),
    ("--sudo", "Re-launch elevated when not an administrator")]

/-- A word and its explanation in two columns, the first of them 16 characters wide. -/
def row : String × String → String
  | (word, explanation) => "  " ++ word ++ "".pushn ' ' (16 - word.length) ++ explanation

/-- A registered option as it is written in an invocation. -/
def customRow : Registration → String
  | .switch name => "  --" ++ name
  | .definition key => "  -" ++ key ++ ":<value>"

/-- The lines of the usage. -/
def lines (introduction : Option String) (custom : List Registration) : List String :=
  (match introduction with
    | some text => [text, ""]
    | none => []) ++
  ["Usage: <service> [verb] [-option:value] [--switch]", "", "Verbs:"] ++ verbs.map row ++
  ["", "Options:"] ++ options.map row ++
  (if custom.isEmpty then [] else ["", "Custom options:"] ++ custom.map customRow)

/-- The usage as one text. -/
def render (introduction : Option String) (custom : List Registration) : String :=
  "\n".intercalate (lines introduction custom)

end ServiceHost.Usage
