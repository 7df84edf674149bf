import ServiceHost.Input.Parser

/-!
# Parsers built from the combinators

The predicate `Parser.Built` holds of the parsers that the primitives and combinators form, with
any predicates, functions and continuations. `Parser.Invariant` holds of those among them that
do not look at the offset.

## Main definitions

* `Parser.Built` : formed from the primitives and combinators.
* `Parser.Invariant` : formed without `atStart` and `spanned`.
* `Parser.Chain` : the greedy run of a parser, as a relation.
-/

namespace ServiceHost.Parser

variable {α : Type} [Width α]

/-- The parsers formed from the primitives and combinators. -/
inductive Built : {β : Type} → Parser α β → Prop
  | pure {β : Type} (value : β) : Built (Parser.pure value)
  | fail {β : Type} : Built (fail : Parser α β)
  | satisfy (accepts : α → Bool) : Built (satisfy accepts)
  | atEnd : Built atEnd
  | atStart : Built atStart
  | boundary (closes : α → Bool) : Built (boundary closes)
  | map {β γ : Type} (f : β → γ) {p : Parser α β} (hp : Built p) : Built (Parser.map f p)
  | bind {β γ : Type} {p : Parser α β} {next : β → Parser α γ} (hp : Built p)
      (hnext : ∀ value, Built (next value)) : Built (Parser.bind p next)
  | orElse {β : Type} {p q : Parser α β} (hp : Built p) (hq : Built q) :
      Built (Parser.orElse p fun _ ↦ q)
  | firstMatch {β : Type} {parsers : List (Parser α β)} (h : ∀ p ∈ parsers, Built p) :
      Built (firstMatch parsers)
  | filter {β : Type} (accepts : β → Bool) {p : Parser α β} (hp : Built p) :
      Built (filter accepts p)
  | filterMap {β γ : Type} (f : β → Option γ) {p : Parser α β} (hp : Built p) :
      Built (filterMap f p)
  | optional {β : Type} {p : Parser α β} (hp : Built p) : Built (optional p)
  | spanned {β : Type} {p : Parser α β} (hp : Built p) : Built (spanned p)
  | many {β : Type} {p : Parser α β} (hp : Built p) : Built (many p)

/-- The parsers formed without a look at the offset. -/
inductive Invariant : {β : Type} → Parser α β → Prop
  | pure {β : Type} (value : β) : Invariant (Parser.pure value)
  | fail {β : Type} : Invariant (fail : Parser α β)
  | satisfy (accepts : α → Bool) : Invariant (satisfy accepts)
  | atEnd : Invariant atEnd
  | boundary (closes : α → Bool) : Invariant (boundary closes)
  | map {β γ : Type} (f : β → γ) {p : Parser α β} (hp : Invariant p) :
      Invariant (Parser.map f p)
  | bind {β γ : Type} {p : Parser α β} {next : β → Parser α γ} (hp : Invariant p)
      (hnext : ∀ value, Invariant (next value)) : Invariant (Parser.bind p next)
  | orElse {β : Type} {p q : Parser α β} (hp : Invariant p) (hq : Invariant q) :
      Invariant (Parser.orElse p fun _ ↦ q)
  | firstMatch {β : Type} {parsers : List (Parser α β)} (h : ∀ p ∈ parsers, Invariant p) :
      Invariant (firstMatch parsers)
  | filter {β : Type} (accepts : β → Bool) {p : Parser α β} (hp : Invariant p) :
      Invariant (filter accepts p)
  | filterMap {β γ : Type} (f : β → Option γ) {p : Parser α β} (hp : Invariant p) :
      Invariant (filterMap f p)
  | optional {β : Type} {p : Parser α β} (hp : Invariant p) : Invariant (optional p)
  | many {β : Type} {p : Parser α β} (hp : Invariant p) : Invariant (many p)

/-- The greedy run of a parser: from the first position, through the values read, to the last
position. A match that reads nothing is the last of the run. -/
inductive Chain {β : Type} (p : Parser α β) : Cursor α → List β → Cursor α → Prop
  | stop {c : Cursor α} (h : p.run c = none) : Chain p c [] c
  | stall {c d : Cursor α} {value : β} (h : p.run c = some ⟨value, d⟩)
      (hd : ¬ d.remaining < c.remaining) : Chain p c [value] d
  | step {c d e : Cursor α} {value : β} {values : List β} (h : p.run c = some ⟨value, d⟩)
      (hd : d.remaining < c.remaining) (hrest : Chain p d values e) :
      Chain p c (value :: values) e

end ServiceHost.Parser
