import ServiceHost.ConfigurationError
import ServiceHost.Text.Blank

/-!
# The text of an invocation

An invocation reaches a program as one line that begins with the program's path, or as a list of
arguments. `Invocation.withoutProgram` takes the path off a line. `Invocation.join` writes a list
of arguments as one line, from which the same arguments can be read again; an argument for
which no quoting does this is refused.
-/

namespace ServiceHost.Invocation

/-- The rest of the text after the given beginning, if the text begins so. -/
def dropBeginning? (text beginning : String) : Option String :=
  if beginning.toList.isPrefixOf text.toList then
    some (String.ofList (text.toList.drop beginning.toList.length))
  else none

/-- The line without the path of the program, bare or in quotes, at its beginning. -/
def withoutProgram (line program : String) : String :=
  ((dropBeginning? line program).or (dropBeginning? line (Text.inQuotes program))).getD line

/-- An argument that begins with a hyphen is cut after its first colon. Any other argument is a
value as a whole. -/
def cutKey (argument : String) : String × String :=
  let chars := argument.toList
  if chars.head? = some '-' ∧ ':' ∈ chars then
    let (key, value) := chars.span (· != ':')
    (String.ofList (key ++ [':']), String.ofList (value.drop 1))
  else ("", argument)

/-- The written form of one argument. Its value is quoted if it contains a blank, and if the
argument is empty. No value that begins with a quote can be written, and no value that needs
quotes and contains one. -/
def quote (argument : String) : Except ConfigurationError String :=
  let (key, value) := cutKey argument
  let needsQuotes := Text.hasBlank value || (key.isEmpty && value.isEmpty)
  if value.toList.head? = some '"' ∨ needsQuotes ∧ '"' ∈ value.toList then
    .error (.unquotableArgument argument)
  else if needsQuotes then .ok (key ++ Text.inQuotes value)
  else .ok argument

/-- The arguments as one line, separated by single spaces. -/
def join (arguments : List String) : Except ConfigurationError String :=
  return " ".intercalate (← arguments.mapM quote)

end ServiceHost.Invocation
