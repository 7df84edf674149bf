import ServiceHost.ConfigurationError
import ServiceHost.Defaults.Basic

/-!
# Libraries of layered settings

Defaults are loaded by means of a library that layers settings documents. Sources and overrides are
handed to a builder of the library, the builder yields layered settings, and the defaults are read
off these. How documents are written, how layers are merged and how values are converted is up to
the library.

## Main definitions

* `SettingsSource` : where a library finds settings.
* `SettingsLibrary` : the operations of a library of layered settings.
-/

namespace ServiceHost

/-- The texts of the files to which paths lead. A path may lead to no file. -/
abbrev Files := String → Option String

/-- Where a library finds settings. -/
inductive SettingsSource where
  /-- A document with the given text. -/
  | document (text : String)
  /-- The document in the file to which a path leads. -/
  | file (path : String) (required : Bool)
  deriving DecidableEq, Repr

/-- The operations of a library of layered settings. -/
structure SettingsLibrary where
  /-- The values of settings. -/
  Value : Type
  /-- The value that is a text. -/
  ofText : String → Value
  /-- What is to be layered. -/
  Builder : Type
  /-- The builder with nothing to be layered. -/
  empty : Builder
  /-- Adds a source after those that were added before. -/
  addSource : Builder → SettingsSource → Builder
  /-- Overrides what the sources say of the setting with the key. -/
  setOverride : Builder → String → Value → Except DefaultsError Builder
  /-- Settings of which all layers were merged. -/
  Layered : Type
  /-- Reads the sources and merges all layers. -/
  build : Files → Builder → Except DefaultsError Layered
  /-- The defaults that the settings state. -/
  toDefaults : Layered → Except DefaultsError Defaults

end ServiceHost
