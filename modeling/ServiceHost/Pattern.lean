import ServiceHost.Input.Parser
import ServiceHost.Token.Basic

/-!
# Resolving tokens by patterns

A pattern is a named parser of tokens. Resolution walks through the tokens: at each position
the first pattern that matches yields a value, and resolution goes on after what it read. A
position where no pattern matches yields nothing. Every step moves on by at least one token,
also after a match that read nothing.

## Main definitions

* `Pattern` : a named parser of tokens.
* `Pattern.resolve` : the values that an ordered list of patterns finds in a list of tokens.
-/

namespace ServiceHost

/-- A named parser of tokens. -/
structure Pattern (β : Type) where
  /-- The name of the pattern. -/
  name : String
  /-- What the pattern reads. -/
  parser : Parser Token β

namespace Pattern

variable {β : Type}

/-- The match of the first pattern that matches at the cursor. -/
def firstMatch (patterns : List (Pattern β)) (c : Cursor Token) : Option (Match Token β) :=
  patterns.findSome? fun pattern ↦ pattern.parser.run c

/-- The position after a match, or the next position if the match read nothing. -/
def advance (c : Cursor Token) (m : Match Token β) : Cursor Token :=
  if m.rest.remaining < c.remaining then m.rest else c.skip

theorem remaining_skip_lt {c : Cursor Token} (h : c.rest ≠ []) :
    c.skip.remaining < c.remaining := by
  rw [c.eq_ofRest]
  match hrest : c.rest with
  | [] => exact absurd hrest h
  | item :: rest =>
    rw [Cursor.skip, Cursor.next?_ofRest_cons]
    simp only [Cursor.remaining_eq, Cursor.rest_ofRest, Width.total]
    exact Nat.lt_add_of_pos_left (Width.width_pos item)

theorem remaining_advance_lt {c : Cursor Token} (h : c.rest ≠ []) (m : Match Token β) :
    (advance c m).remaining < c.remaining := by
  rw [advance]
  split
  · assumption
  · exact remaining_skip_lt h

/-- The values found from a position to the end. -/
def resolveFrom (patterns : List (Pattern β)) (c : Cursor Token) : List β :=
  if _h : c.rest = [] then []
  else match firstMatch patterns c with
    | some m => m.value :: resolveFrom patterns (advance c m)
    | none => resolveFrom patterns c.skip
termination_by c.remaining
decreasing_by
  · exact remaining_advance_lt ‹_› m
  · exact remaining_skip_lt ‹_›

/-- The values that the patterns find in the tokens, in order. -/
def resolve (patterns : List (Pattern β)) (tokens : List Token) : List β :=
  resolveFrom patterns (Cursor.start tokens)

end Pattern

end ServiceHost
