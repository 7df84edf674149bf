/-!
# Comparison without regard to letter case

Option names and keywords are compared without regard to the case of the letters A to Z. Every
other character stands only for itself.
-/

namespace ServiceHost.Text

/-- The text with the letters A to Z in lower case. -/
def fold (text : String) : String := String.ofList (text.toList.map Char.toLower)

/-- The texts differ at most in the case of the letters A to Z. -/
def sameIgnoringCase (a b : String) : Bool := fold a == fold b

end ServiceHost.Text
