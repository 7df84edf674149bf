import ServiceHost.Defaults.Basic

/-!
# Settings of the defaults

Each of the settings has a key, under which documents and overrides give it a value, and the
defaults hold a text, a start mode or a number of seconds for it.

## Main definitions

* `Setting` : the settings.
* `Setting.key` : the key of a setting.
* `Defaults.content` : what the defaults hold for a setting.
-/

namespace ServiceHost

/-- A setting of the defaults. -/
inductive Setting where
  | name
  | displayName
  | description
  | instanceName
  | startMode
  | startTimeout
  | stopTimeout
  deriving DecidableEq, Repr

namespace Setting

/-- What a setting holds. -/
inductive Content where
  | text (text : String)
  | startMode (mode : StartMode)
  | seconds (n : Nat)
  deriving DecidableEq, Repr

/-- The key of a setting in documents. -/
def key : Setting → String
  | name => "name"
  | displayName => "display_name"
  | description => "description"
  | instanceName => "instance_name"
  | startMode => "start_mode"
  | startTimeout => "start_timeout_secs"
  | stopTimeout => "stop_timeout_secs"

end Setting

namespace Defaults

/-- What the defaults hold. -/
def content (d : Defaults) : Setting → Setting.Content
  | .name => .text d.name
  | .displayName => .text d.displayName
  | .description => .text d.description
  | .instanceName => .text d.instanceName
  | .startMode => .startMode d.startMode
  | .startTimeout => .seconds d.startTimeoutSeconds
  | .stopTimeout => .seconds d.stopTimeoutSeconds

/-- The built-in defaults. -/
def builtin : Defaults where
  name := ""
  displayName := ""
  description := ""
  instanceName := ""
  startMode := .automatic
  startTimeoutSeconds := 10
  stopTimeoutSeconds := 10

end Defaults

end ServiceHost
