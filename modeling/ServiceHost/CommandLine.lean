import ServiceHost.Configuration.Apply
import ServiceHost.Configuration.Build
import ServiceHost.Defaults.Loader
import ServiceHost.Environment.Memory
import ServiceHost.Host.Run
import ServiceHost.Invocation
import ServiceHost.Report

/-!
# The command line of the interpreter

The program is given its own options and the invocation of a service. It reports what the invocation
leads to, and on request runs the host against a service manager in memory. The defaults are loaded
by a library of layered settings, and a printer of JSON values writes reports in this form.

## Main definitions

* `CommandLine.Options` : the options of the program and the invocation.
* `CommandLine.prepare` : the report and the host that an invocation leads to.
* `CommandLine.run` : what the program prints and the status it ends with.
-/

namespace ServiceHost.CommandLine

/-! ### Options -/

/-- The form of a report. -/
inductive Format where
  | text
  | json
  deriving DecidableEq, Repr

/-- The options of the program and the invocation after them. -/
structure Options where
  /-- The file to be layered over the built-in defaults. -/
  config : Option String := none
  /-- The name of a service that the invocation does not name. -/
  name : Option String := none
  /-- The form of the report, once it was chosen. -/
  format : Option Format := none
  /-- The host is run. -/
  execute : Bool := false
  /-- The invocation of the service. -/
  invocation : List String := []
  deriving DecidableEq, Repr, Inhabited

/-! ### Interpretation -/

variable (library : SettingsLibrary) (printer : Json → Except String String) (files : Files)

/-- The defaults under the options. -/
def loadDefaults (o : Options) : Except DefaultsError Defaults := do
  let loader : Loader library :=
    match o.config with
    | some path => Loader.new.withFile path
    | none => Loader.new
  let loader ← match o.name with
    | some name => loader.setOverride "name" (library.ofText name)
    | none => pure loader
  loader.load files

/-- The configuration before the invocation is applied to it. Its service always starts and
stops. -/
def initial (defaults : Defaults) : Configuration :=
  { Configuration.ofDefaults defaults with factory := some fun _ ↦ ⟨true, true⟩ }

/-- The report and the host that an invocation leads to, or the first reason why it leads to
none. -/
def prepare (o : Options) : Except ConfigurationError (Report × Host) := do
  let defaults ← (loadDefaults library files o).mapError .defaults
  let text ← Invocation.join o.invocation
  let c := initial defaults
  let applied := c.applyCommandLine text
  match applied.error? with
  | some error => throw error
  | none =>
    let configured := applied.configuration
    let host ← configured.build.host
    return (⟨configured.mode, c.grammar.parse text, configured.installSettings⟩, host)

/-- The report in the form that the options choose. A printer may refuse a value with a text. -/
def render (o : Options) (report : Report) : Except String String :=
  match o.format.getD .text with
  | .text => .ok report.text
  | .json => (printer report.toJson).map (· ++ "\n")

/-- What a run prints. -/
def printed (events : List Event) : String :=
  String.join (events.map fun
    | .printed text => text
    | _ => "")

/-- How the interpretation of an invocation ends. -/
structure Outcome where
  /-- The exit code. -/
  code : ExitCode
  /-- What is printed on the standard output. -/
  output : String
  /-- What is said of a report that is not printed. -/
  complaint : Option String
  deriving DecidableEq, Repr

/-- How the interpretation of an invocation ends. -/
def interpret (o : Options) : Except ConfigurationError Outcome := do
  let (report, host) ← prepare library files o
  match render printer o report with
  | .error detail => return ⟨.abnormalExit, "", some ("Serialization error: " ++ detail)⟩
  | .ok text =>
    if o.execute then
      let run := host.runIn (⟨true, false, ⟨[]⟩, [], []⟩ : MemoryEnvironment)
      return ⟨run.code, text ++ printed run.events ++ "exit: " ++ run.code.text ++ "\n", none⟩
    else return ⟨.ok, text, none⟩

/-! ### The program -/

/-- How the program ends. -/
structure Ending where
  /-- The status of the process. -/
  status : Nat
  /-- What is printed on the standard output. -/
  output : String
  /-- What is said of an error. -/
  error : Option String
  deriving DecidableEq, Repr

/-- What the program does under the options. -/
def run (o : Options) : Ending :=
  match interpret library printer files o with
  | .ok outcome => ⟨outcome.code.status, outcome.output, outcome.complaint⟩
  | .error error => ⟨ExitCode.abnormalExit.status, "", some ("Error: " ++ error.message)⟩

end ServiceHost.CommandLine
