import ServiceHost.Defaults.Library

/-!
# Loading defaults

Defaults come in layers: the built-in ones, then files in the order in which they were added,
then overrides. A file may be missing if it is optional. A library of layered settings merges the
layers.

## Main definitions

* `Loader` : the files and overrides to be layered over the built-in defaults.
* `Loader.load` : the defaults, or the reason why there are none.
-/

namespace ServiceHost

/-- The files and overrides to be layered over the built-in defaults. -/
structure Loader (library : SettingsLibrary) where
  /-- What the library has to layer. -/
  builder : library.Builder

namespace Loader

/-- The lines of the document with the built-in defaults. -/
def documentLines : List String :=
  ["# Defaults applied before the command line. Empty strings mean \"not set\".",
    "",
    "# Service name. Must be set here, in a user file, or with -servicename.",
    "name = \"\"",
    "display_name = \"\"",
    "description = \"\"",
    "instance_name = \"\"",
    "",
    "# automatic | automatic-delayed | manual | disabled",
    "start_mode = \"automatic\"",
    "",
    "# Seconds to wait for the service manager to start or stop the service.",
    "start_timeout_secs = 10",
    "stop_timeout_secs = 10"]

/-- The document with the built-in defaults. -/
def document : String := String.join (documentLines.map fun line ↦ line ++ "\n")

variable {library : SettingsLibrary}

/-- The loader of the built-in defaults. -/
def new : Loader library := ⟨library.addSource library.empty (.document document)⟩

/-- Adds a file that has to be there. -/
def withFile (l : Loader library) (path : String) : Loader library :=
  ⟨library.addSource l.builder (.file path true)⟩

/-- Adds a file that may be missing. -/
def withOptionalFile (l : Loader library) (path : String) : Loader library :=
  ⟨library.addSource l.builder (.file path false)⟩

/-- Overrides the setting with the key. -/
def setOverride (l : Loader library) (key : String) (value : library.Value) :
    Except DefaultsError (Loader library) := do
  return ⟨← library.setOverride l.builder key value⟩

/-- The defaults of all layers. -/
def load (l : Loader library) (files : Files) : Except DefaultsError Defaults := do
  library.toDefaults (← library.build files l.builder)

end Loader

end ServiceHost
