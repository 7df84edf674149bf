/-!
# Blanks

Spaces and tabs separate the tokens of an invocation. No other character does.
-/

namespace ServiceHost.Text

/-- A space or a tab. -/
def isBlank (c : Char) : Bool := c == ' ' || c == '\t'

/-- The text contains a space or a tab. -/
def hasBlank (text : String) : Bool := text.toList.any isBlank

/-- A text is written in quotes when it is empty or contains a blank. -/
def needsQuotes (text : String) : Bool := text.isEmpty || hasBlank text

/-- The text between two quotes. -/
def inQuotes (text : String) : String := "\"" ++ text ++ "\""

/-- The text in quotes where it needs them, and as it is otherwise. -/
def quoteIfNeeded (text : String) : String := if needsQuotes text then inQuotes text else text

end ServiceHost.Text
