import ServiceHost.CommandLine
import ServiceHost.Defaults.Document.Library
import ServiceHost.Json.Printer

/-!
# Arguments of the program

The program reads its own options up to the first operand or a double hyphen. Everything from
there on is the invocation of a service.

An unknown word with hyphens is an operand. An option with a value takes the next argument,
unless that is an option of the program or a double hyphen. What the program does under its options
does not depend on how they were read.

## Main definitions

* `CommandLine.read` : the options of the program and the invocation after them.
* `CommandLine.runArguments` : what the program does for its arguments.
-/

namespace ServiceHost.CommandLine

/-! ### Words -/

/-- The form of the given name. -/
def Format.ofName? : String → Option Format
  | "text" => some .text
  | "json" => some .json
  | _ => none

/-- An option that takes a value. -/
inductive ValueOption where
  | config
  | name
  | format
  deriving DecidableEq, Repr

/-- What an argument is to the program. -/
inductive Word where
  /-- An option with a value, which may be attached to it. -/
  | value (option : ValueOption) (attached : Option String)
  /-- The flag that runs the host. -/
  | execute
  /-- The flag that shows the version. -/
  | version
  /-- The flag that shows the usage. -/
  | help
  /-- A flag with a value attached to it. -/
  | flagWithValue
  /-- The double hyphen before an invocation. -/
  | separator
  /-- Any other argument. -/
  | operand
  deriving DecidableEq, Repr

/-- A flag, or the misuse of a flag if a value is attached to it. -/
def Word.flag (word : Word) (attached : Option String) : Word :=
  if attached.isSome then .flagWithValue else word

/-- The word for an option of the given long name. -/
def ofLongName (name : String) (attached : Option String) : Word :=
  match name with
  | "config" => .value .config attached
  | "name" => .value .name attached
  | "format" => .value .format attached
  | "execute" => Word.execute.flag attached
  | "version" => Word.version.flag attached
  | "help" => Word.help.flag attached
  | _ => .operand

/-- The word for options of one letter after a hyphen. They are options only if all of them are
known, and the first of them decides. -/
def ofLetters (letters : List Char) : Word :=
  let attached := if letters.length ≤ 1 then none else some (String.ofList (letters.drop 1))
  if letters.all fun c ↦ ['c', 'n', 'f', 'h', 'V'].contains c then
    match letters.head? with
    | some 'c' => .value .config attached
    | some 'n' => .value .name attached
    | some 'f' => .value .format attached
    | some 'h' => .help
    | some 'V' => .version
    | _ => .operand
  else .operand

/-- What an argument is to the program. -/
def classify (argument : String) : Word :=
  match argument.toList with
  | ['-', '-'] => .separator
  | '-' :: '-' :: long =>
    let (name, value) := long.span (· != '=')
    ofLongName (String.ofList name)
      (if value.isEmpty then none else some (String.ofList (value.drop 1)))
  | '-' :: letters => ofLetters letters
  | _ => .operand

/-- The options with one more value. An option is given once, and the form of the report has to
be known. -/
def Options.set? (o : Options) (option : ValueOption) (value : String) : Option Options :=
  match option with
  | .config => if o.config.isSome then none else some { o with config := value }
  | .name => if o.name.isSome then none else some { o with name := value }
  | .format =>
    if o.format.isSome then none
    else (Format.ofName? value).map fun format ↦ { o with format }

/-- What the arguments ask the program to do. -/
inductive Task where
  /-- Interpret an invocation. -/
  | interpret (options : Options)
  /-- Show the version. -/
  | version
  /-- Show the usage. -/
  | help
  /-- Refuse the arguments. -/
  | refuse
  deriving DecidableEq, Repr

/-- Reads the arguments after the given options. -/
def readFrom (o : Options) : List String → Task
  | [] => .interpret o
  | argument :: rest =>
    match classify argument with
    | .separator => .interpret { o with invocation := rest }
    | .operand => .interpret { o with invocation := argument :: rest }
    | .version => .version
    | .help => .help
    | .flagWithValue => .refuse
    | .execute => if o.execute then .refuse else readFrom { o with execute := true } rest
    | .value option (some value) =>
      match o.set? option value with
      | some o => readFrom o rest
      | none => .refuse
    | .value option none =>
      match rest with
      | [] => .refuse
      | value :: rest =>
        match classify value with
        | .operand =>
          match o.set? option value with
          | some o => readFrom o rest
          | none => .refuse
        | _ => .refuse

/-- Reads the arguments of the program. -/
def read (arguments : List String) : Task :=
  readFrom ⟨none, none, none, false, []⟩ arguments

/-! ### The program -/

/-- The line that shows the version. -/
def versionLine : String := "shelfhost 0.1.0\n"

/-- The usage of the program. -/
def usage : String :=
  "\n".intercalate
    ["Interpret a service-host command line",
      "",
      "Usage: shelfhost [OPTIONS] [invocation]...",
      "",
      "Arguments:",
      "  [invocation]...  The service command line, e.g. install -servicename Joe --manual",
      "",
      "Options:",
      "  -c, --config <config>  TOML file layered over the built-in defaults",
      "  -n, --name <name>      Service name used when the invocation does not set one",
      "  -f, --format <format>  Output format [default: text] [possible values: text, json]",
      "      --execute          Run the built host against an in-memory service manager",
      "  -h, --help             Print help",
      "  -V, --version          Print version",
      ""]

/-- What the program does for its arguments. It loads the defaults from settings documents. -/
def runArguments (arguments : List String) (files : Files) : Ending :=
  match read arguments with
  | .refuse => ⟨2, "", none⟩
  | .version => ⟨0, versionLine, none⟩
  | .help => ⟨0, usage, none⟩
  | .interpret options =>
    run (Document.library id) (fun value ↦ .ok value.pretty) (Document.find files) options

end ServiceHost.CommandLine
