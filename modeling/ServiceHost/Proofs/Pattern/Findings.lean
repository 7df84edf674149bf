import Mathlib.Data.List.Basic
import ServiceHost.Proofs.Input.Position
import ServiceHost.Proofs.Pattern.SingleToken

/-!
# Which pattern found a value

Resolution hands out values and does not say where they come from. To follow them, the patterns are
made to yield more: each value with the number of its pattern and the range of tokens that it was
read from. Resolution does not look at values, so it takes the same way, and the plain values are
those of the plain patterns.

A pattern behind all others is tried only where none of the others matches. There, without it,
resolution would leave one token behind. If the last pattern reads at most one token, resolution
leaves one token behind with it as well, also after a match that read nothing. The others are
therefore tried at the same positions with and without it, and find the same.

## Main definitions

* `Pattern.Finding` : a value with its range of tokens and the number of its pattern.
* `Pattern.findings` : what the patterns find in a list of tokens.
* `Pattern.Finding.IsFirstMatch` : the pattern of a finding is the first that matches there.

## Main results

* `Pattern.resolveFrom_map` : a function of the values can be applied before or after resolution.
* `Pattern.isFirstMatch_of_mem_findings` : every finding is a first match.
* `Pattern.resolveFrom_concat` : the values of the last pattern stand between those of the others.
* `Pattern.findings_concat` : what the others find with and without the last pattern.
-/

namespace ServiceHost

open ServiceHost.Parser

variable {β γ : Type}

namespace Pattern

/-! ### Findings -/

/-- A value with the range of tokens that it was read from and the number of the pattern that found
it. -/
structure Finding (β : Type) extends Spanned β where
  /-- The number of patterns before the one that found the value. -/
  number : Nat
  deriving DecidableEq, Repr

/-- The pattern with a function applied to its values. -/
def map (f : β → γ) (pattern : Pattern β) : Pattern γ := ⟨pattern.name, f <$> pattern.parser⟩

/-- The pattern with the given number, which yields findings. -/
def traced (number : Nat) (pattern : Pattern β) : Pattern (Finding β) :=
  ⟨pattern.name, (fun spanned ↦ ⟨spanned, number⟩) <$> pattern.parser.spanned⟩

/-- What the patterns find in the tokens, in order. -/
def findings (patterns : List (Pattern β)) (tokens : List Token) : List (Finding β) :=
  resolve (patterns.mapIdx traced) tokens

/-- The finding is right: where its range begins, the pattern of its number matches and none before
it does, and the match has the value and the range of the finding. -/
def Finding.IsFirstMatch (patterns : List (Pattern β)) (tokens : List Token)
    (finding : Finding β) : Prop :=
  let c := Cursor.ofRest finding.span.start (tokens.drop finding.span.start)
  ∃ pattern rest, patterns[finding.number]? = some pattern ∧
    pattern.parser.run c = some ⟨finding.value, rest⟩ ∧ rest.offset = finding.span.stop ∧
    ∀ earlier ∈ patterns.take finding.number, earlier.parser.run c = none

variable {patterns : List (Pattern β)} {last : Pattern β} {tokens : List Token}
  {c : Cursor Token} {m : Match Token β} {finding : Finding β}

/-! ### Steps of a resolution -/

theorem resolveFrom_of_some (hrest : c.rest ≠ []) (h : firstMatch patterns c = some m) :
    resolveFrom patterns c = m.value :: resolveFrom patterns (advance c m) := by
  rw [resolveFrom, dif_neg hrest, h]

theorem resolveFrom_of_none (hrest : c.rest ≠ []) (h : firstMatch patterns c = none) :
    resolveFrom patterns c = resolveFrom patterns c.skip := by
  rw [resolveFrom, dif_neg hrest, h]

/-- Every step leaves at least one token behind and yields at most one value. -/
theorem length_resolveFrom_le (patterns : List (Pattern β)) (c : Cursor Token) :
    (resolveFrom patterns c).length ≤ c.remaining := by
  fun_induction resolveFrom patterns c with
  | case1 c hrest => exact Nat.zero_le _
  | case2 c hrest m hmatch ih =>
    have hlt := remaining_advance_lt hrest m
    rw [List.length_cons]
    omega
  | case3 c hrest hmatch ih =>
    have hlt := remaining_skip_lt hrest
    omega

theorem length_resolve_le (patterns : List (Pattern β)) (tokens : List Token) :
    (resolve patterns tokens).length ≤ tokens.length :=
  (length_resolveFrom_le patterns _).trans_eq (Width.total_eq_length tokens)

theorem reachable_skip (hc : c.Reachable tokens) (hrest : c.rest ≠ []) :
    c.skip.Reachable tokens := by
  obtain ⟨token, rest, htokens⟩ := List.exists_cons_of_ne_nil hrest
  exact hc.next (Cursor.next?_of_rest htokens)

theorem reachable_advance (hpatterns : ∀ pattern ∈ patterns, Built pattern.parser)
    (hc : c.Reachable tokens) (hrest : c.rest ≠ []) (h : firstMatch patterns c = some m) :
    (advance c m).Reachable tokens := by
  obtain ⟨pattern, hmem, hrun⟩ := List.exists_of_findSome?_eq_some h
  rw [advance]
  split_ifs
  · exact hc.run (hpatterns pattern hmem) hrun
  · exact reachable_skip hc hrest

/-- Every value is that of the first match at some position of the tokens. -/
theorem exists_firstMatch_of_mem (hpatterns : ∀ pattern ∈ patterns, Built pattern.parser)
    (hc : c.Reachable tokens) {value : β} (h : value ∈ resolveFrom patterns c) :
    ∃ d m, d.Reachable tokens ∧ firstMatch patterns d = some m ∧ m.value = value := by
  fun_induction resolveFrom patterns c with
  | case1 c hrest => exact absurd h List.not_mem_nil
  | case2 c hrest m hmatch ih =>
    rcases List.mem_cons.mp h with rfl | hmem
    · exact ⟨c, m, hc, hmatch, rfl⟩
    · exact ih (reachable_advance hpatterns hc hrest hmatch) hmem
  | case3 c hrest hmatch ih => exact ih (reachable_skip hc hrest) h

/-! ### The way of a resolution -/

theorem firstMatch_map (f : β → γ) (patterns : List (Pattern β)) (c : Cursor Token) :
    firstMatch (patterns.map (map f)) c =
      (firstMatch patterns c).map fun m ↦ ⟨f m.value, m.rest⟩ := by
  rw [firstMatch, firstMatch, List.findSome?_map, List.map_findSome?]
  rfl

/-- A function of the values can be applied before or after resolution. -/
theorem resolveFrom_map (f : β → γ) (patterns : List (Pattern β)) (c : Cursor Token) :
    resolveFrom (patterns.map (map f)) c = (resolveFrom patterns c).map f := by
  fun_induction resolveFrom patterns c with
  | case1 c hrest => exact resolveFrom_of_nil hrest
  | case2 c hrest m hmatch ih =>
    have hmap := firstMatch_map f patterns c
    rw [hmatch] at hmap
    rw [resolveFrom_of_some hrest hmap, List.map_cons, ← ih]
    rfl
  | case3 c hrest hmatch ih =>
    have hmap := firstMatch_map f patterns c
    rw [hmatch] at hmap
    rw [resolveFrom_of_none hrest hmap, ih]

theorem run_traced (number : Nat) (pattern : Pattern β) (c : Cursor Token) :
    (traced number pattern).parser.run c = (pattern.parser.run c).map fun m ↦
      ⟨⟨⟨m.value, c.offset, m.rest.offset⟩, number⟩, m.rest⟩ :=
  Option.map_map _ _ _

theorem map_value_traced (number : Nat) (pattern : Pattern β) :
    map (fun finding ↦ finding.value) (traced number pattern) = pattern := by
  obtain ⟨name, ⟨run⟩⟩ := pattern
  refine congrArg (fun run ↦ Pattern.mk name ⟨run⟩) (funext fun c ↦ ?_)
  rw [run_traced, Option.map_map]
  exact Option.map_id'

theorem map_value_mapIdx_traced (patterns : List (Pattern β)) :
    (patterns.mapIdx traced).map (map fun finding ↦ finding.value) = patterns := by
  refine List.ext_getElem? fun number ↦ ?_
  rw [List.getElem?_map, List.getElem?_mapIdx, Option.map_map]
  exact (congrArg (Option.map · _) (funext (map_value_traced number))).trans Option.map_id'

/-- The findings have the values that the plain patterns yield. -/
theorem map_value_findings (patterns : List (Pattern β)) (tokens : List Token) :
    (findings patterns tokens).map (fun finding ↦ finding.value) = resolve patterns tokens := by
  rw [findings, resolve, ← resolveFrom_map, map_value_mapIdx_traced]
  rfl

/-! ### Findings are first matches -/

theorem built_traced (hpatterns : ∀ pattern ∈ patterns, Built pattern.parser) :
    ∀ pattern ∈ patterns.mapIdx traced, Built pattern.parser := by
  intro pattern hmem
  obtain ⟨number, hnumber, rfl⟩ := List.mem_mapIdx.mp hmem
  exact built_map _ (.spanned (hpatterns _ (List.getElem_mem hnumber)))

theorem isFirstMatch_of_firstMatch {m : Match Token (Finding β)} (hc : c.Reachable tokens)
    (h : firstMatch (patterns.mapIdx traced) c = some m) :
    m.value.IsFirstMatch patterns tokens := by
  obtain ⟨before, found, after, hsplit, hrun, hbefore⟩ := List.findSome?_eq_some_iff.mp h
  obtain ⟨earlier, rest, rfl, rfl, hrest⟩ := List.mapIdx_eq_append_iff.mp hsplit
  obtain ⟨pattern, later, rfl, rfl, -⟩ := List.mapIdx_eq_cons_iff.mp hrest
  rw [Nat.zero_add, run_traced] at hrun
  obtain ⟨m, hplain, rfl⟩ := Option.map_eq_some_iff.mp hrun
  have hposition : Cursor.ofRest c.offset (tokens.drop c.offset) = c := by
    rw [← hc.within.rest_eq_drop, ← c.eq_ofRest]
  refine ⟨pattern, m.rest, ?_, ?_, rfl, fun other hother ↦ ?_⟩
  · rw [List.getElem?_append_right le_rfl, Nat.sub_self, List.getElem?_cons_zero]
  · rw [hposition, hplain]
  · rw [List.take_left] at hother
    obtain ⟨number, hlt, rfl⟩ := List.getElem_of_mem hother
    have hnone := hbefore _ (List.mem_mapIdx.mpr ⟨number, hlt, rfl⟩)
    rw [run_traced, Option.map_eq_none_iff] at hnone
    rw [hposition, hnone]

/-- Every finding is a first match. -/
theorem isFirstMatch_of_mem_findings (hpatterns : ∀ pattern ∈ patterns, Built pattern.parser)
    (h : finding ∈ findings patterns tokens) : finding.IsFirstMatch patterns tokens := by
  obtain ⟨c, m, hc, hmatch, rfl⟩ := exists_firstMatch_of_mem (built_traced hpatterns) .start h
  exact isFirstMatch_of_firstMatch hc hmatch

/-! ### A last pattern -/

theorem firstMatch_concat (patterns : List (Pattern β)) (last : Pattern β) (c : Cursor Token) :
    firstMatch (patterns ++ [last]) c = (firstMatch patterns c).or (last.parser.run c) := by
  rw [firstMatch, List.findSome?_append, List.findSome?_singleton]
  rfl

/-- After a match that reads at most one token, resolution leaves one token behind. -/
theorem advance_eq_skip (h : c.Reaches m.rest) (hone : m.rest.offset ≤ c.offset + 1) :
    advance c m = c.skip := by
  obtain ⟨read, hread, hoffset⟩ := id h
  rw [Width.total_eq_length] at hoffset
  match read with
  | [] => rw [advance, h.eq_of_offset_eq hoffset, if_neg (lt_irrefl _)]
  | [token] =>
    have hskip : m.rest = c.skip := by
      rw [c.eq_ofRest, hread, List.singleton_append, Cursor.skip_ofRest_cons]
      exact Cursor.ext rfl hoffset
    rw [advance, hskip, ite_self]
  | token :: next :: read =>
    simp only [List.length_cons] at hoffset
    omega

/-- The values of the last pattern stand between those of the others. Without them, the values of
the others remain, as they are found without the last pattern. -/
theorem resolveFrom_concat {keep : β → Bool}
    (hkeep : ∀ pattern ∈ patterns, ∀ c m, pattern.parser.run c = some m → keep m.value)
    (hdrop : ∀ c m, last.parser.run c = some m → keep m.value = false)
    (hskip : ∀ c m, last.parser.run c = some m → advance c m = c.skip) (c : Cursor Token) :
    (resolveFrom (patterns ++ [last]) c).filter keep = resolveFrom patterns c := by
  fun_induction resolveFrom patterns c with
  | case1 c hrest => rw [resolveFrom_of_nil hrest, List.filter_nil]
  | case2 c hrest m hmatch ih =>
    obtain ⟨pattern, hmem, hrun⟩ := List.exists_of_findSome?_eq_some hmatch
    have hall : firstMatch (patterns ++ [last]) c = some m := by
      rw [firstMatch_concat, hmatch, Option.some_or]
    rw [resolveFrom_of_some hrest hall, List.filter_cons_of_pos (hkeep pattern hmem c m hrun), ih]
  | case3 c hrest hmatch ih =>
    have hall := firstMatch_concat patterns last c
    rw [hmatch, Option.none_or] at hall
    cases hrun : last.parser.run c with
    | none =>
      rw [hrun] at hall
      rw [resolveFrom_of_none hrest hall, ih]
    | some m =>
      rw [hrun] at hall
      rw [resolveFrom_of_some hrest hall, List.filter_cons_of_neg (by simp [hdrop c m hrun]),
        hskip c m hrun, ih]

/-- What the others find with a last pattern is what they find without it. -/
theorem filter_findings_concat (hlast : Built last.parser)
    (hone : ∀ c m, last.parser.run c = some m → m.rest.offset ≤ c.offset + 1)
    (patterns : List (Pattern β)) (tokens : List Token) :
    (findings (patterns ++ [last]) tokens).filter (fun finding ↦ finding.number ≠ patterns.length) =
      findings patterns tokens := by
  rw [findings, List.mapIdx_concat]
  refine resolveFrom_concat (fun pattern hmem c m hrun ↦ ?_) (fun c m hrun ↦ ?_)
    (fun c m hrun ↦ ?_) _
  · obtain ⟨number, hlt, rfl⟩ := List.mem_mapIdx.mp hmem
    rw [run_traced] at hrun
    obtain ⟨m, -, rfl⟩ := Option.map_eq_some_iff.mp hrun
    exact decide_eq_true hlt.ne
  · rw [run_traced] at hrun
    obtain ⟨m, -, rfl⟩ := Option.map_eq_some_iff.mp hrun
    exact decide_eq_false (not_not_intro rfl)
  · rw [run_traced] at hrun
    obtain ⟨m, hplain, rfl⟩ := Option.map_eq_some_iff.mp hrun
    exact advance_eq_skip (hlast.reaches hplain) (hone c m hplain)

/-- If the last of some patterns never reads more than one token, what all of them find consists of
first matches and has the values that resolution yields. Without what the last one finds, it is what
the others find alone, with the same values in the same order at the same places. Resolution yields
at most one value for a token. -/
theorem findings_concat (hpatterns : ∀ pattern ∈ patterns, Built pattern.parser)
    (hlast : Built last.parser)
    (hone : ∀ c m, last.parser.run c = some m → m.rest.offset ≤ c.offset + 1)
    (tokens : List Token) :
    let all := findings (patterns ++ [last]) tokens
    let others := all.filter fun finding ↦ finding.number ≠ patterns.length
    all.map (fun finding ↦ finding.value) = resolve (patterns ++ [last]) tokens ∧
      (∀ finding ∈ all, finding.IsFirstMatch (patterns ++ [last]) tokens) ∧
      others = findings patterns tokens ∧
      others.map (fun finding ↦ finding.value) = resolve patterns tokens ∧
      (resolve patterns tokens).length ≤ tokens.length ∧
      (resolve (patterns ++ [last]) tokens).length ≤ tokens.length := by
  intro all others
  have hothers : others = findings patterns tokens :=
    filter_findings_concat hlast hone patterns tokens
  have hall : ∀ pattern ∈ patterns ++ [last], Built pattern.parser :=
    List.forall_mem_append.mpr ⟨hpatterns, List.forall_mem_singleton.mpr hlast⟩
  refine ⟨map_value_findings _ _, fun _ ↦ isFirstMatch_of_mem_findings hall, hothers, ?_,
    length_resolve_le _ _, length_resolve_le _ _⟩
  rw [hothers, map_value_findings]

/-- A pattern of two tokens, one that matches at the start only and reads nothing, and a last one
that reads an argument or nothing. -/
theorem findings_concat_optional :
    let patterns : List (Pattern String) :=
      [⟨"pair", (fun pair ↦ pair.1 ++ "+" ++ pair.2) <$> Token.anyArgument.pair Token.anyArgument⟩,
        ⟨"start", (fun _ ↦ "start") <$> atStart⟩]
    let last : Pattern String := ⟨"rest", (fun text ↦ text.getD "?") <$> Token.anyArgument.optional⟩
    let tokens : List Token :=
      [.switch "x" true, .argument "a", .argument "b", .switch "y" true, .argument "c"]
    (∀ pattern ∈ patterns, Built pattern.parser) ∧ Built last.parser ∧
      (∀ c m, last.parser.run c = some m → m.rest.offset ≤ c.offset + 1) ∧
      resolve (patterns ++ [last]) tokens = ["start", "a+b", "?", "c"] ∧
      findings patterns tokens = [⟨⟨"start", 0, 0⟩, 1⟩, ⟨⟨"a+b", 1, 3⟩, 0⟩] ∧
      resolve patterns tokens = ["start", "a+b"] := by
  intro patterns last tokens
  have hargument : Built Token.anyArgument := .filterMap _ built_any
  have hpatterns : ∀ pattern ∈ patterns, Built pattern.parser :=
    List.forall_mem_cons.mpr ⟨built_map _ (built_pair hargument hargument),
      List.forall_mem_singleton.mpr (built_map _ .atStart)⟩
  have hlast : Built last.parser := built_map _ (.optional hargument)
  have hone : ∀ c m, last.parser.run c = some m → m.rest.offset ≤ c.offset + 1 := by
    intro c m h
    rw [c.eq_ofRest] at h
    rcases hrest : c.rest with _ | ⟨_ | _ | _, rest⟩ <;> rw [hrest] at h <;> cases h
    · exact Nat.le_succ _
    · exact le_rfl
    · exact Nat.le_succ _
    · exact Nat.le_succ _
  have hall : findings (patterns ++ [last]) tokens = [⟨⟨"start", 0, 0⟩, 1⟩, ⟨⟨"a+b", 1, 3⟩, 0⟩,
      ⟨⟨"?", 3, 3⟩, 2⟩, ⟨⟨"c", 4, 5⟩, 2⟩] := by
    decide +kernel
  obtain ⟨hvalues, -, hothers, hresolve, -, -⟩ := findings_concat hpatterns hlast hone tokens
  rw [hall] at hvalues hothers hresolve
  exact ⟨hpatterns, hlast, hone, hvalues.symm, hothers.symm, hresolve.symm⟩

end Pattern

end ServiceHost
