import ServiceHost.Text.Blank

/-!
# Keys of switches and definitions

A key is not empty, does not start with a hyphen and contains no blank, colon or quote.
-/

namespace ServiceHost.Token

/-- A character that may stand in a key. -/
def isKeyChar (c : Char) : Bool := !Text.isBlank c && c != ':' && c != '"'

/-- A character that may begin a key. -/
def isKeyStart (c : Char) : Bool := isKeyChar c && c != '-'

/-- The characters form a key. -/
def isKey : List Char → Bool
  | [] => false
  | first :: following => isKeyStart first && following.all isKeyChar

end ServiceHost.Token
