import ServiceHost.Input.Cursor

/-!
# Parsers over a cursor

A parser reads from a cursor and either matches, with a value and the position after what it
read, or does not match. Choice is ordered: an alternative is tried only where the parser
before it does not match. Nothing is retried with another split of the input.

Repetition is greedy and ends after a match that read nothing, so it terminates for every
parser.

## Main definitions

* `Parser` : a function from a cursor to an optional match.
* `Parser.many`, `Parser.many1`, `Parser.firstMatch`, `Parser.spanned` : the combinators.
-/

namespace ServiceHost

/-- A half-open range of offsets. -/
structure Span where
  /-- The offset of the first item. -/
  start : Nat
  /-- The offset after the last item. -/
  stop : Nat
  deriving DecidableEq, Repr

/-- A value with the range of the input that it was read from. -/
structure Spanned (β : Type) where
  /-- What was read. -/
  value : β
  /-- Where it was read. -/
  span : Span
  deriving DecidableEq, Repr

/-- What a parser read and the position after it. -/
structure Match (α : Type) [Width α] (β : Type) where
  /-- The value of the match. -/
  value : β
  /-- The position after the match. -/
  rest : Cursor α

/-- A parser reads a value at a cursor, or does not match there. -/
structure Parser (α : Type) [Width α] (β : Type) where
  /-- The match at a cursor, if there is one. -/
  run : Cursor α → Option (Match α β)

namespace Parser

variable {α β γ : Type} [Width α]

/-! ### Sequence and choice -/

/-- Matches everywhere, reads nothing and yields the value. -/
protected def pure (value : β) : Parser α β := ⟨fun c ↦ some ⟨value, c⟩⟩

/-- Matches nowhere. -/
def fail : Parser α β := ⟨fun _ ↦ none⟩

/-- Applies a function to the value of a match. -/
protected def map (f : β → γ) (p : Parser α β) : Parser α γ :=
  ⟨fun c ↦ (p.run c).map fun m ↦ ⟨f m.value, m.rest⟩⟩

/-- Goes on after a match with the parser that its value selects. -/
protected def bind (p : Parser α β) (next : β → Parser α γ) : Parser α γ :=
  ⟨fun c ↦ (p.run c).bind fun m ↦ (next m.value).run m.rest⟩

instance : Monad (Parser α) where
  pure := Parser.pure
  map := Parser.map
  bind := Parser.bind

/-- Tries the second parser where the first one does not match. -/
protected def orElse (p : Parser α β) (other : Unit → Parser α β) : Parser α β :=
  ⟨fun c ↦ (p.run c).or ((other ()).run c)⟩

instance : Alternative (Parser α) where
  failure := fail
  orElse := Parser.orElse

/-- Reads with both parsers, one after the other. -/
def pair (p : Parser α β) (q : Parser α γ) : Parser α (β × γ) := do
  let first ← p
  let second ← q
  return (first, second)

/-- The first of the parsers that matches. -/
def firstMatch (parsers : List (Parser α β)) : Parser α β :=
  ⟨fun c ↦ parsers.findSome? fun p ↦ p.run c⟩

/-! ### Single items and positions -/

/-- Reads one item that satisfies the predicate. -/
def satisfy (accepts : α → Bool) : Parser α α :=
  ⟨fun c ↦ c.next?.bind fun (item, rest) ↦ if accepts item then some ⟨item, rest⟩ else none⟩

/-- Reads one item. -/
def any : Parser α α := satisfy fun _ ↦ true

/-- Matches at the end of the input. -/
def atEnd : Parser α Unit := ⟨fun c ↦ if c.isAtEnd then some ⟨(), c⟩ else none⟩

/-- Matches at the start of the input. -/
def atStart : Parser α Unit := ⟨fun c ↦ if c.offset = 0 then some ⟨(), c⟩ else none⟩

/-- Matches at the end of the input and before an item that closes what was read. -/
def boundary (closes : α → Bool) : Parser α Unit :=
  ⟨fun c ↦ if c.rest.head?.all closes then some ⟨(), c⟩ else none⟩

/-! ### Conditions on a value -/

/-- Keeps a match whose value satisfies the predicate. -/
def filter (accepts : β → Bool) (p : Parser α β) : Parser α β :=
  ⟨fun c ↦ (p.run c).filter fun m ↦ accepts m.value⟩

/-- Keeps a match on whose value the function is defined. -/
def filterMap (f : β → Option γ) (p : Parser α β) : Parser α γ :=
  ⟨fun c ↦ (p.run c).bind fun m ↦ (f m.value).map fun value ↦ ⟨value, m.rest⟩⟩

/-- Matches everywhere: with a value where the parser matches, without one elsewhere. -/
def optional (p : Parser α β) : Parser α (Option β) :=
  ⟨fun c ↦ match p.run c with
    | some m => some ⟨some m.value, m.rest⟩
    | none => some ⟨none, c⟩⟩

/-- Adds the range of offsets that the match covers. -/
def spanned (p : Parser α β) : Parser α (Spanned β) :=
  ⟨fun c ↦ (p.run c).map fun m ↦ ⟨⟨m.value, c.offset, m.rest.offset⟩, m.rest⟩⟩

/-! ### Repetition -/

/-- The values that the parser reads one after the other. The run ends where the parser does
not match, and after a match that read nothing. -/
def iterate (p : Parser α β) (c : Cursor α) : Match α (List β) :=
  match p.run c with
  | none => ⟨[], c⟩
  | some m =>
    if m.rest.remaining < c.remaining then
      let following := iterate p m.rest
      ⟨m.value :: following.value, following.rest⟩
    else
      ⟨[m.value], m.rest⟩
termination_by c.remaining

/-- Reads as often as the parser matches, perhaps never. -/
def many (p : Parser α β) : Parser α (List β) := ⟨fun c ↦ some (p.iterate c)⟩

/-- Reads once and then as often as the parser matches. -/
def many1 (p : Parser α β) : Parser α (List β) := do
  let first ← p
  let following ← p.many
  return first :: following

end Parser

end ServiceHost
