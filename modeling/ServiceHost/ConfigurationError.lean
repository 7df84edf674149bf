/-!
# Errors of a configuration

Each error is the cause that keeps an invocation from becoming a host.
-/

namespace ServiceHost

/-- Why the defaults could not be loaded. -/
inductive DefaultsError where
  /-- An override names no setting. -/
  | invalidKey
  /-- A required file cannot be read. -/
  | unreadableFile
  /-- A file is no document. -/
  | malformedFile
  /-- A setting has a value of another kind. -/
  | mismatch (found expected key : String)
  /-- There is no start mode of this name. -/
  | unknownStartMode (text : String)
  /-- The start mode is given by something that is no name. -/
  | unnamedStartMode
  /-- Any other reason, in the words of those who read the settings. -/
  | other (text : String)
  deriving DecidableEq, Repr

/-- A name that must be free of certain characters. -/
inductive NameField where
  /-- The name of the service. -/
  | name
  /-- The display name of the service. -/
  | displayName
  deriving DecidableEq, Repr

/-- The title of a name in an error. -/
def NameField.title : NameField → String
  | name => "Name"
  | displayName => "DisplayName"

/-- Why an invocation does not become a host. -/
inductive ConfigurationError where
  /-- The leading argument is no mode keyword. -/
  | unknownCommand (text : String)
  /-- Nothing makes the service. -/
  | missingServiceFactory
  /-- The service has no name. -/
  | missingName
  /-- A name contains a character that it may not contain. -/
  | invalidName (field : NameField) (value : String)
  /-- No quoting carries the argument. -/
  | unquotableArgument (argument : String)
  /-- The defaults could not be loaded. -/
  | defaults (error : DefaultsError)
  deriving DecidableEq, Repr

/-- The text of an error in loading the defaults. The details of a path, a file or a document that
cannot be read are left to those who read them. -/
def DefaultsError.detail : DefaultsError → String
  | invalidKey => "invalid key"
  | unreadableFile => "unreadable file"
  | malformedFile => "malformed file"
  | mismatch found expected key =>
    "invalid type: " ++ found ++ ", expected " ++ expected ++ " for key `" ++ key ++ "`"
  | unknownStartMode text => "enum StartMode does not have variant constructor " ++ text
  | unnamedStartMode =>
    "value of enum StartMode should be represented by either string or table with exactly one key"
  | other text => text

/-- The text of an error. -/
def ConfigurationError.message : ConfigurationError → String
  | unknownCommand text => "unknown command-line argument: " ++ text
  | missingServiceFactory => "no service factory was registered"
  | missingName => "a service name must be specified and not empty"
  | invalidName field value =>
    field.title ++ " '" ++ value ++
      "' must not contain tab, CR, LF, '/' or '\\' characters"
  | unquotableArgument argument => "argument cannot be quoted without escapes: " ++ argument
  | defaults error => "settings error: " ++ error.detail

end ServiceHost
