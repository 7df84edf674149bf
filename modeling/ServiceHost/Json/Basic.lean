/-!
# JSON values

A value of a JSON text. The fields of an object keep their order. A number is kept as it is written,
or as a float, of which it is up to a printer how it is written.
-/

namespace ServiceHost

/-- A JSON value. -/
inductive Json where
  | null
  | bool (value : Bool)
  | number (text : String)
  | float (value : Float)
  | string (text : String)
  | array (items : List Json)
  | object (fields : List (String × Json))
  deriving Repr, Inhabited

namespace Json

/-- A natural number. -/
def nat (n : Nat) : Json := .number (toString n)

/-- The text, or null if there is none. -/
def optionalString : Option String → Json
  | none => .null
  | some text => .string text

end Json

end ServiceHost
