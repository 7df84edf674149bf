import ServiceHost.Input.Cursor
import ServiceHost.Text.Blank

/-!
# Tokens of an invocation

An invocation is a sequence of arguments, switches and definitions. The written form of a token
quotes a text that is empty or contains a blank.
-/

namespace ServiceHost

/-- One piece of an invocation. -/
inductive Token where
  /-- A bare or quoted text. -/
  | argument (text : String)
  /-- A named flag. -/
  | switch (key : String) (value : Bool)
  /-- A named text. -/
  | definition (key value : String)
  deriving DecidableEq, Repr

/-- In a sequence of tokens every token has width one. -/
instance : Width Token := ⟨fun _ ↦ 1, fun _ ↦ Nat.one_pos⟩

namespace Token

/-- The key of a switch or a definition. -/
def key? : Token → Option String
  | argument _ => none
  | switch key _ => some key
  | definition key _ => some key

/-- The token is an argument. -/
def isArgument : Token → Bool
  | argument _ => true
  | _ => false

/-- The written form of a token. -/
def render : Token → String
  | argument text => Text.quoteIfNeeded text
  | switch key _ => "--" ++ key
  | definition key value => "-" ++ key ++ ":" ++ Text.quoteIfNeeded value

/-- The written forms of the tokens, separated by single spaces. -/
def renderAll (tokens : List Token) : String := " ".intercalate (tokens.map render)

end Token

end ServiceHost
