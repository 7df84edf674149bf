import ServiceHost.FileTree
import ServiceHost.Input.Parser
import ServiceHost.Text.Case
import ServiceHost.Token.Basic

/-!
# Parsers of single tokens

These parsers read at most one token and yield what an option needs of it. Switches are named
without regard to letter case, definitions exactly.
-/

namespace ServiceHost.Token

open ServiceHost.Parser

/-- Reads a switch and yields its key and value. -/
def anySwitch : Parser Token (String × Bool) :=
  any.filterMap fun
    | .switch key value => some (key, value)
    | _ => none

/-- Reads a switch of the given name and yields its value. -/
def switchNamed (name : String) : Parser Token Bool :=
  Prod.snd <$> anySwitch.filter fun (key, _) ↦ Text.sameIgnoringCase key name

/-- Reads a definition and yields its key and value. -/
def anyDefinition : Parser Token (String × String) :=
  any.filterMap fun
    | .definition key value => some (key, value)
    | _ => none

/-- Reads a definition of the given key and yields its value. -/
def definitionNamed (name : String) : Parser Token String :=
  Prod.snd <$> anyDefinition.filter fun (key, _) ↦ key == name

/-- Reads an argument and yields its text. -/
def anyArgument : Parser Token String :=
  any.filterMap fun
    | .argument text => some text
    | _ => none

/-- Reads an argument whose text satisfies the predicate. -/
def argumentMatching (accepts : String → Bool) : Parser Token String :=
  anyArgument.filter accepts

/-- Reads an argument that is the given word in any letter case. -/
def argumentNamed (word : String) : Parser Token String :=
  argumentMatching fun text ↦ Text.sameIgnoringCase text word

/-- Reads an argument that names a directory of the file tree. -/
def directoryArgument (tree : FileTree) : Parser Token String :=
  argumentMatching tree.isDirectory

end ServiceHost.Token
