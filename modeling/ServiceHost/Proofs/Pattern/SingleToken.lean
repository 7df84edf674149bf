import Mathlib.Logic.Basic
import ServiceHost.Pattern
import ServiceHost.Token.Matching

/-!
# Patterns of single tokens

A parser of one token is a partial function of the token, if it looks at nothing but the token and
whether it stands first. The combinators that keep to single tokens are those of partial
functions. Resolution by patterns of this kind is one pass over the tokens, since each of them is
left behind whether it was claimed or not.

## Main definitions

* `Parser.Claims` : the parser reads one token and yields what a partial function gives for it.

## Main results

* `Pattern.resolveFrom_step` : resolution yields at most one value for a token and goes on after it.
* `Pattern.resolve_eq` : resolution yields the values of all tokens in order.
-/

namespace ServiceHost

variable {β γ ι : Type}

namespace Cursor

theorem next?_of_rest {c : Cursor Token} {token : Token} {rest : List Token}
    (h : c.rest = token :: rest) : c.next? = some (token, c.skip) := by
  rw [c.eq_ofRest, h, skip, next?_ofRest_cons]

theorem skip_ofRest_cons (offset : Nat) (token : Token) (rest : List Token) :
    (ofRest offset (token :: rest)).skip = ofRest (offset + 1) rest := by
  rw [skip, next?_ofRest_cons]
  rfl

end Cursor

namespace Parser

/-- Where a token stands next, the parser reads it and yields what the function gives for it. The
function is told whether the token is the first one. -/
def Claims (p : Parser Token β) (f : Bool → Token → Option β) : Prop :=
  ∀ (c : Cursor Token) (token : Token) (rest : List Token), c.rest = token :: rest →
    p.run c = (f (c.offset == 0) token).map fun value ↦ ⟨value, c.skip⟩

variable {p : Parser Token β} {f : Bool → Token → Option β}

theorem Claims.congr (h : p.Claims f) {g : Bool → Token → Option β}
    (hfg : ∀ leading token, f leading token = g leading token) : p.Claims g := by
  intro c token rest hrest
  rw [← hfg]
  exact h c token rest hrest

theorem claims_any : (any : Parser Token Token).Claims fun _ token ↦ some token := by
  intro c token rest h
  simp only [any, satisfy, Cursor.next?_of_rest h, Option.bind_some, if_true, Option.map_some]

theorem Claims.map (h : p.Claims f) (g : β → γ) :
    (g <$> p).Claims fun leading token ↦ (f leading token).map g := by
  intro c token rest hrest
  change (p.run c).map _ = _
  rw [h c token rest hrest, Option.map_map, Option.map_map]
  rfl

theorem Claims.bind_pure (h : p.Claims f) (g : β → γ) :
    (do let value ← p; return g value : Parser Token γ).Claims
      fun leading token ↦ (f leading token).map g := by
  intro c token rest hrest
  change (p.run c).bind _ = _
  rw [h c token rest hrest, Option.bind_map, Option.map_map]
  cases f (c.offset == 0) token <;> rfl

theorem Claims.filter (h : p.Claims f) (accepts : β → Bool) :
    (p.filter accepts).Claims fun leading token ↦ (f leading token).filter accepts := by
  intro c token rest hrest
  change (p.run c).filter _ = _
  rw [h c token rest hrest, Option.filter_map]
  rfl

theorem Claims.filterMap (h : p.Claims f) (g : β → Option γ) :
    (p.filterMap g).Claims fun leading token ↦ (f leading token).bind g := by
  intro c token rest hrest
  change (p.run c).bind _ = _
  rw [h c token rest hrest, Option.bind_map, Option.map_bind]
  rfl

/-- A parser behind `atStart` claims the first token only. -/
theorem Claims.atStart (h : p.Claims f) :
    (do let _ ← atStart; p : Parser Token β).Claims
      fun leading token ↦ if leading then f leading token else none := by
  intro c token rest hrest
  change (Option.bind _ _) = _
  simp only [Parser.atStart]
  by_cases hoffset : c.offset = 0
  · rw [if_pos hoffset, Option.bind_some, h c token rest hrest, beq_iff_eq.mpr hoffset]
    rfl
  · rw [if_neg hoffset, beq_eq_false_iff_ne.mpr hoffset]
    rfl

theorem Claims.firstMatch {ps : ι → Parser Token β} {fs : ι → Bool → Token → Option β}
    (h : ∀ i, (ps i).Claims (fs i)) (l : List ι) :
    (firstMatch (l.map ps)).Claims fun leading token ↦ l.findSome? fun i ↦ fs i leading token := by
  intro c token rest hrest
  simp only [Parser.firstMatch, List.findSome?_map, List.map_findSome?]
  exact congrArg (l.findSome? ·) (funext fun i ↦ h i c token rest hrest)

theorem Claims.firstMatch_append {ps qs : List (Parser Token β)} {g : Bool → Token → Option β}
    (hp : (Parser.firstMatch ps).Claims f) (hq : (Parser.firstMatch qs).Claims g) :
    (Parser.firstMatch (ps ++ qs)).Claims fun leading token ↦
      (f leading token).or (g leading token) := by
  intro c token rest hrest
  simp only [Parser.firstMatch, List.findSome?_append]
  rw [Option.map_or]
  exact congrArg₂ Option.or (hp c token rest hrest) (hq c token rest hrest)

theorem Claims.firstMatch_cons {ps : List (Parser Token β)} {g : Bool → Token → Option β}
    (hp : p.Claims f) (hq : (Parser.firstMatch ps).Claims g) :
    (Parser.firstMatch (p :: ps)).Claims fun leading token ↦
      (f leading token).or (g leading token) := by
  intro c token rest hrest
  rw [Option.map_or, ← hp c token rest hrest, ← hq c token rest hrest]
  simp only [Parser.firstMatch, List.findSome?_cons]
  cases p.run c <;> rfl

theorem claims_fail : (Parser.firstMatch ([] : List (Parser Token β))).Claims fun _ _ ↦ none :=
  fun _ _ _ _ ↦ rfl

end Parser

namespace Pattern

variable {patterns : List (Pattern β)} {f : Bool → Token → Option β}

theorem resolveFrom_of_nil {c : Cursor Token} (h : c.rest = []) :
    resolveFrom patterns c = [] := by
  rw [resolveFrom, dif_pos h]

/-- A token yields what its claim gives, and resolution goes on after it in any case. -/
theorem resolveFrom_step (h : (Parser.firstMatch (patterns.map parser)).Claims f)
    {c : Cursor Token} {token : Token} {rest : List Token} (hrest : c.rest = token :: rest) :
    resolveFrom patterns c =
      (f (c.offset == 0) token).toList ++ resolveFrom patterns c.skip := by
  have hne : c.rest ≠ [] := by
    rw [hrest]
    exact List.cons_ne_nil _ _
  have hmatch : firstMatch patterns c =
      (f (c.offset == 0) token).map fun value ↦ ⟨value, c.skip⟩ := by
    rw [← h c token rest hrest]
    simp only [firstMatch, Parser.firstMatch, List.findSome?_map]
    rfl
  rw [resolveFrom, dif_neg hne, hmatch]
  cases f (c.offset == 0) token with
  | none => rfl
  | some value =>
    have hadvance : advance c ⟨value, c.skip⟩ = c.skip := ite_self _
    simp only [Option.map_some, hadvance]
    rfl

/-- Behind the first token the values of all tokens follow in order. -/
theorem resolveFrom_eq (h : (Parser.firstMatch (patterns.map parser)).Claims f)
    (tokens : List Token) {offset : Nat} (hoffset : offset ≠ 0) :
    resolveFrom patterns (Cursor.ofRest offset tokens) = tokens.filterMap (f false) := by
  induction tokens generalizing offset with
  | nil => exact resolveFrom_of_nil rfl
  | cons token tokens ih =>
    rw [resolveFrom_step h rfl, Cursor.skip_ofRest_cons, ih (Nat.succ_ne_zero offset),
      Cursor.offset_ofRest, beq_eq_false_iff_ne.mpr hoffset, List.filterMap_cons]
    cases f false token <;> rfl

/-- Resolution yields the value of the first token, then those of all others in order. -/
theorem resolve_eq (h : (Parser.firstMatch (patterns.map parser)).Claims f) (token : Token)
    (tokens : List Token) : resolve patterns (token :: tokens) =
      (f true token).toList ++ tokens.filterMap (f false) := by
  rw [resolve, resolveFrom_step h rfl, Cursor.start, Cursor.skip_ofRest_cons,
    resolveFrom_eq h tokens (Nat.succ_ne_zero 0)]
  rfl

end Pattern

end ServiceHost
