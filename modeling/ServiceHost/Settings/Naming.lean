/-!
# Derived names

A service name carries the instance after a dollar sign. A display name carries the instance in
parentheses, once: a name that already ends with this note is left as it is.
-/

namespace ServiceHost.Naming

/-- The name of a service: the name alone, or the name and the instance. -/
def serviceName (name instanceName : String) : String :=
  if instanceName.isEmpty then name else name ++ "$" ++ instanceName

/-- The note that a display name carries for a named instance. -/
def instanceNote (instanceName : String) : String := " (Instance: " ++ instanceName ++ ")"

/-- The text ends with the other one. -/
def endsWith (text ending : String) : Bool := ending.toList.isSuffixOf text.toList

/-- The text without the ending, or the whole text if it ends otherwise. -/
def dropEnding (text ending : String) : String :=
  if endsWith text ending then
    String.ofList (text.toList.take (text.toList.length - ending.toList.length))
  else text

/-- The text that the display name is formed from: the explicit one unless it is empty. -/
def displayBase (name explicitName : String) : String :=
  if explicitName.isEmpty then name else explicitName

/-- The display name of a service. -/
def displayName (name explicitName instanceName : String) : String :=
  let base := displayBase name explicitName
  if instanceName.isEmpty || endsWith base (instanceNote instanceName) then base
  else base ++ instanceNote instanceName

/-- The display name without the note for the instance. -/
def withoutNote (displayName instanceName : String) : String :=
  if instanceName.isEmpty then displayName
  else dropEnding displayName (instanceNote instanceName)

end ServiceHost.Naming
