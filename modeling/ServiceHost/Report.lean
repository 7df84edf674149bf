import ServiceHost.Directive
import ServiceHost.Json.Basic
import ServiceHost.Settings.Basic
import ServiceHost.Text.Quoted

/-!
# Reports

A report states the mode, the directives and the settings that an invocation leads to. It is
written as lines of text or as a JSON value.

## Main definitions

* `Report` : what an invocation leads to.
* `Report.text` : the report in lines.
* `Report.toJson` : the report as a JSON value.
-/

namespace ServiceHost

/-- A duration in seconds as a JSON number. -/
def Duration.toJson (d : Duration) : Json := .float d.toFloat

namespace Settings

/-- The fields of the settings in a JSON object. -/
def fields (s : Settings) : List (String × Json) :=
  [("name", .string s.name), ("display_name", .string s.displayName),
    ("description", .string s.description), ("instance_name", .string s.instanceName),
    ("service_name", .string s.serviceName), ("start_timeout", s.startTimeout.toJson),
    ("stop_timeout", s.stopTimeout.toJson)]

/-- The settings as a JSON value. -/
def toJson (s : Settings) : Json := .object s.fields

end Settings

/-- The settings with the start mode and the right to elevate as one JSON object. -/
def InstallSettings.toJson (s : InstallSettings) : Json :=
  .object (s.host.fields ++
    [("start_mode", .string s.startMode.name), ("sudo", .bool s.mayElevate)])

namespace Directive

/-- The kind of a directive and its value, if it has one. -/
def parts : Directive → String × Option Json
  | .mode selected => ("mode", some (.string selected.name))
  | .unknownCommand text => ("unknown-command", some (.string text))
  | .serviceName name => ("service-name", some (.string name))
  | .displayName name => ("display-name", some (.string name))
  | .instanceName name => ("instance-name", some (.string name))
  | .description text => ("description", some (.string text))
  | .startMode chosen => ("start-mode", some (.string chosen.name))
  | .allowElevation => ("sudo", none)
  | .customSwitch name value =>
    ("custom-switch", some (.object [("name", .string name), ("value", .bool value)]))
  | .customDefinition name value =>
    ("custom-definition", some (.object [("name", .string name), ("value", .string value)]))
  | .unknown text => ("unknown", some (.string text))

/-- The directive as a JSON value. -/
def toJson (d : Directive) : Json :=
  .object (("option", .string d.parts.1) :: (d.parts.2.map fun value ↦ ("value", value)).toList)

/-- The title of a mode in a line of text. -/
def modeTitle : Mode → String
  | .unselected => "Unselected"
  | .install => "Install"
  | .uninstall => "Uninstall"
  | .start => "Start"
  | .stop => "Stop"
  | .run => "Run"
  | .help => "Help"
  | .test => "Test"

/-- The word for the kind of a directive in a line of text. -/
def title : Directive → String
  | .mode _ => "Mode"
  | .unknownCommand _ => "UnknownCommand"
  | .serviceName _ => "ServiceName"
  | .displayName _ => "DisplayName"
  | .instanceName _ => "InstanceName"
  | .description _ => "Description"
  | .startMode _ => "StartMode"
  | .allowElevation => "Sudo"
  | .customSwitch _ _ => "CustomSwitch"
  | .customDefinition _ _ => "CustomDefinition"
  | .unknown _ => "Unknown"

/-- What follows this word. -/
def detail : Directive → String
  | .mode selected => "(" ++ modeTitle selected ++ ")"
  | .startMode chosen => "(" ++ chosen.title ++ ")"
  | .allowElevation => ""
  | .customSwitch name value =>
    " \x7b name: " ++ Text.quoted name ++ ", value: " ++ toString value ++ " \x7d"
  | .customDefinition name value =>
    " \x7b name: " ++ Text.quoted name ++ ", value: " ++ Text.quoted value ++ " \x7d"
  | .unknownCommand text | .serviceName text | .displayName text | .instanceName text
  | .description text | .unknown text => "(" ++ Text.quoted text ++ ")"

/-- The directive in a line of text. -/
def text (d : Directive) : String := d.title ++ d.detail

end Directive

/-- What an invocation leads to. -/
structure Report where
  /-- The mode in effect. -/
  mode : Mode
  /-- The directives of the invocation. -/
  directives : List Directive
  /-- The settings after the directives were applied. -/
  settings : InstallSettings
  deriving DecidableEq, Repr

namespace Report

/-- The lines of the report. -/
def lines (r : Report) : List String :=
  let host := r.settings.host
  ["mode:          " ++ r.mode.name,
    "name:          " ++ host.name,
    "service name:  " ++ host.serviceName,
    "display name:  " ++ host.displayName,
    "description:   " ++ host.description,
    "instance:      " ++ host.instanceName,
    "start mode:    " ++ r.settings.startMode.title,
    "sudo:          " ++ toString r.settings.mayElevate,
    "timeouts:      start " ++ toString host.startTimeout.seconds ++ "s, stop " ++
      toString host.stopTimeout.seconds ++ "s"] ++
    r.directives.map fun directive ↦ "option:        " ++ directive.text

/-- The report in lines. -/
def text (r : Report) : String := String.join (r.lines.map fun line ↦ line ++ "\n")

/-- The report as a JSON value. -/
def toJson (r : Report) : Json :=
  .object [("mode", .string r.mode.name), ("options", .array (r.directives.map Directive.toJson)),
    ("settings", r.settings.toJson)]

end Report

end ServiceHost
