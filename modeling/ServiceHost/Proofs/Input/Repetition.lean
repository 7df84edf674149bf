import ServiceHost.Proofs.Input.Reading

/-!
# Greedy runs

A repetition reads with its parser again and again. This is a run of matches, each of which reads
something but perhaps the last, so it is never longer than what remains of the input allows. The
parser may match without reading anything, now or always, and it may be a repetition itself.

A repetition that must match at least once is a first match and the greedy run behind it. This is
the greedy run from the beginning, unless the first match reads nothing: the run then ends with this
match, and the run behind it begins with the same match again.

## Main definitions

* `Parser.reached` : the position to which matches lead.
* `Parser.IsGreedyRun` : the matches of a greedy run, one after the other.

## Main results

* `Parser.chain_iterate` : a repetition is a greedy run of its parser.
* `Parser.Chain.length_le` : every greedy run is finite, by what remains of the input.
* `Parser.many_eq_unique_run` : a repetition reads what the only greedy run of its parser reads.
* `Parser.run_many1_cases` : a repetition that must match at least once, beside one that need not.
-/

namespace ServiceHost.Parser

variable {α β : Type} [Width α] {p : Parser α β}

/-- A repetition is a greedy run of its parser. -/
theorem chain_iterate (p : Parser α β) (c : Cursor α) :
    Chain p c (p.iterate c).value (p.iterate c).rest := by
  fun_induction iterate p c with
  | case1 c h => exact .stop h
  | case2 c m h hlt following ih => exact .step h hlt ih
  | case3 c m h hlt => exact .stall h hlt

/-- Every match of a greedy run but the last one reads something. -/
theorem Chain.length_le {c d : Cursor α} {values : List β} (h : Chain p c values d) :
    values.length ≤ c.remaining + 1 := by
  induction h with
  | stop _ => exact Nat.zero_le _
  | stall _ _ => exact Nat.le_add_left 1 _
  | step _ hlt _ ih =>
    rw [List.length_cons]
    omega

/-! ### The matches of a run -/

/-- The position to which matches lead, one after the other. -/
def reached (c : Cursor α) : List (Match α β) → Cursor α
  | [] => c
  | m :: following => reached m.rest following

/-- The matches are those that a parser makes one after the other. Each of them but the last reads
something, and the last one is the last because the parser does not match behind it, or because it
read nothing. -/
structure IsGreedyRun (p : Parser α β) (c : Cursor α) (matched : List (Match α β)) : Prop where
  /-- Each match is the one that the parser makes where the matches before it lead. -/
  run_eq : ∀ (i : Nat) (h : i < matched.length),
    p.run (reached c (matched.take i)) = some matched[i]
  /-- Each match before another one reads something. -/
  remaining_lt : ∀ i, i + 1 < matched.length →
    (reached c (matched.take (i + 1))).remaining < (reached c (matched.take i)).remaining
  /-- The run ends where the parser does not match, or after a match that read nothing. -/
  ends : p.run (reached c matched) = none ∨
    ∃ before m, matched = before ++ [m] ∧ m.rest = reached c before

section Run

variable {c : Cursor α} {m : Match α β} {following : List (Match α β)}

theorem isGreedyRun_nil : IsGreedyRun p c [] ↔ p.run c = none := by
  constructor
  · intro h
    obtain hnone | ⟨before, m, heq, -⟩ := h.ends
    · exact hnone
    · exact absurd heq.symm (by simp)
  · intro h
    exact ⟨fun i hi ↦ absurd hi (Nat.not_lt_zero i), fun i hi ↦ absurd hi (Nat.not_lt_zero _),
      .inl h⟩

/-- A match that reads something is followed by the run from where it leads. -/
theorem IsGreedyRun.of_cons (h : IsGreedyRun p c (m :: following))
    (hlt : m.rest.remaining < c.remaining) : IsGreedyRun p m.rest following where
  run_eq i hi := h.run_eq (i + 1) (Nat.succ_lt_succ hi)
  remaining_lt i hi := h.remaining_lt (i + 1) (Nat.succ_lt_succ hi)
  ends := by
    obtain hnone | ⟨before, last, heq, hlast⟩ := h.ends
    · exact .inl hnone
    · cases before with
      | nil =>
        obtain ⟨rfl, -⟩ := List.cons.inj heq
        exact absurd hlt (by rw [hlast]; exact Nat.lt_irrefl _)
      | cons first before =>
        obtain ⟨rfl, hfollowing⟩ := List.cons.inj heq
        exact .inr ⟨before, last, hfollowing, hlast⟩

theorem IsGreedyRun.cons (h : p.run c = some m) (hlt : m.rest.remaining < c.remaining)
    (hfollowing : IsGreedyRun p m.rest following) : IsGreedyRun p c (m :: following) where
  run_eq
    | 0, _ => h
    | i + 1, hi => hfollowing.run_eq i (Nat.lt_of_succ_lt_succ hi)
  remaining_lt
    | 0, _ => hlt
    | i + 1, hi => hfollowing.remaining_lt i (Nat.lt_of_succ_lt_succ hi)
  ends := by
    obtain hnone | ⟨before, last, rfl, hlast⟩ := hfollowing.ends
    · exact .inl hnone
    · exact .inr ⟨m :: before, last, rfl, hlast⟩

/-- A match of a parser built from the combinators reads something, or it leads nowhere. -/
theorem Built.remaining_lt_or_eq (hp : Built p) (h : p.run c = some m) :
    m.rest.remaining < c.remaining ∨ m.rest = c := by
  have hreaches := hp.reaches h
  have hsum := hreaches.offset_add_remaining
  obtain ⟨read, -, hoffset⟩ := id hreaches
  by_cases heq : m.rest.offset = c.offset
  · exact .inr (hreaches.eq_of_offset_eq heq)
  · exact .inl (by omega)

/-- There is no greedy run of other matches. -/
theorem IsGreedyRun.unique {matched others : List (Match α β)}
    (h : IsGreedyRun p c matched) (hothers : IsGreedyRun p c others) : others = matched := by
  induction matched generalizing c others with
  | nil =>
    cases others with
    | nil => rfl
    | cons m others =>
      have hrun : p.run c = some m := hothers.run_eq 0 (Nat.zero_lt_succ _)
      rw [isGreedyRun_nil.mp h] at hrun
      cases hrun
  | cons m matched ih =>
    have hrun : p.run c = some m := h.run_eq 0 (Nat.zero_lt_succ _)
    cases others with
    | nil =>
      rw [isGreedyRun_nil.mp hothers] at hrun
      cases hrun
    | cons other others =>
      have hother : p.run c = some other := hothers.run_eq 0 (Nat.zero_lt_succ _)
      obtain rfl : other = m := Option.some.inj (hother.symm.trans hrun)
      by_cases hlt : other.rest.remaining < c.remaining
      · rw [ih (h.of_cons hlt) (hothers.of_cons hlt)]
      · have hnil {rest : List (Match α β)} (hrest : IsGreedyRun p c (other :: rest)) :
            rest = [] := by
          cases rest with
          | nil => rfl
          | cons next rest => exact absurd (hrest.remaining_lt 0 (by simp)) hlt
        rw [hnil h, hnil hothers]

/-- The matches that a repetition makes. -/
theorem exists_isGreedyRun (hp : Built p) (c : Cursor α) :
    ∃ matched, IsGreedyRun p c matched ∧
      p.iterate c = ⟨matched.map Match.value, reached c matched⟩ := by
  induction c using iterate.induct p with
  | case1 c h => exact ⟨[], isGreedyRun_nil.mpr h, iterate_of_none h⟩
  | case2 c m h hlt ih =>
    obtain ⟨matched, hrun, heq⟩ := ih
    exact ⟨m :: matched, .cons h hlt hrun, by rw [iterate_of_lt h hlt, heq]; rfl⟩
  | case3 c m h hlt =>
    have hrest : m.rest = c := (hp.remaining_lt_or_eq h).resolve_left hlt
    refine ⟨[m], ⟨?_, ?_, .inr ⟨[], m, rfl, hrest⟩⟩, iterate_of_not_lt h hlt⟩
    · rintro (_ | i) hi
      · exact h
      · simp at hi
    · intro i hi
      simp at hi

end Run

/-- A repetition of a parser built from the combinators matches everywhere. There is one greedy run
of the parser and no other, the repetition yields the values of its matches in order, and leads to
where they lead. The run has at most one match more than what remains. The parser may match without
reading anything, and it may be a repetition. -/
theorem many_eq_unique_run (hp : Built p) (c : Cursor α) :
    ∃ matched, p.many.run c = some ⟨matched.map Match.value, reached c matched⟩ ∧
      IsGreedyRun p c matched ∧ (∀ others, IsGreedyRun p c others → others = matched) ∧
      matched.length ≤ c.remaining + 1 := by
  obtain ⟨matched, hrun, heq⟩ := exists_isGreedyRun hp c
  refine ⟨matched, congrArg some heq, hrun, fun others hothers ↦ hrun.unique hothers, ?_⟩
  have hlength := (p.chain_iterate c).length_le
  rwa [heq, List.length_map] at hlength

/-- The parser of a repetition is a repetition that may match nothing. It reads on in its first
match, and nothing in its second one. -/
theorem many_eq_unique_run_nested :
    let p : Parser Char (List (Option Char)) := (satisfy (· == 'a')).optional.many
    let c := Cursor.start "aab".toList
    ∃ matched, IsGreedyRun p c matched ∧ (∀ others, IsGreedyRun p c others → others = matched) ∧
      matched.map Match.value = [[some 'a', some 'a', none], [none]] ∧
      (reached c matched).rest = ['b'] := by
  intro p c
  have hp : Built p := .many (.optional (.satisfy _))
  obtain ⟨matched, hmany, hrun, hunique, -⟩ := many_eq_unique_run hp c
  have hread : (p.many.run c).map (fun m ↦ (m.value, m.rest.rest)) =
      some ([[some 'a', some 'a', none], [none]], ['b']) := by
    decide +kernel
  rw [hmany, Option.map_some, Option.some.injEq, Prod.mk.injEq] at hread
  exact ⟨matched, hrun, hunique, hread.1, hread.2⟩

/-! ### Repetitions that match at least once -/

section AtLeastOnce

variable {c : Cursor α} {m : Match α β}

/-- The first match is followed by a greedy run from where it leads, also if it read nothing. -/
theorem run_many1 (p : Parser α β) (c : Cursor α) :
    p.many1.run c = (p.run c).map fun m ↦
      ⟨m.value :: (p.iterate m.rest).value, (p.iterate m.rest).rest⟩ := by
  rw [many1, run_bind]
  cases p.run c <;> rfl

theorem isSome_run_many1 (p : Parser α β) (c : Cursor α) :
    (p.many1.run c).isSome = (p.run c).isSome := by
  rw [run_many1, Option.isSome_map]

/-- After a match that read something the greedy run is the one that began with this match. -/
theorem run_many1_of_lt (h : p.run c = some m) (hlt : m.rest.remaining < c.remaining) :
    p.many1.run c = p.many.run c := by
  rw [run_many1, h, Option.map_some]
  exact congrArg some (iterate_of_lt h hlt).symm

/-- A match that read nothing is all of a greedy run. -/
theorem Built.run_many_of_not_lt (hp : Built p) (h : p.run c = some m)
    (hlt : ¬ m.rest.remaining < c.remaining) : p.many.run c = some ⟨[m.value], c⟩ := by
  have hrest : m.rest = c := (hp.remaining_lt_or_eq h).resolve_left hlt
  exact congrArg some ((iterate_of_not_lt h hlt).trans (by rw [hrest]))

/-- A match that read nothing does not move, so that the run after it begins with the same match. -/
theorem Built.run_many1_of_not_lt (hp : Built p) (h : p.run c = some m)
    (hlt : ¬ m.rest.remaining < c.remaining) :
    p.many1.run c = some ⟨[m.value, m.value], c⟩ := by
  have hrest : m.rest = c := (hp.remaining_lt_or_eq h).resolve_left hlt
  have hiterate : p.iterate c = ⟨[m.value], c⟩ :=
    Option.some.inj (hp.run_many_of_not_lt h hlt)
  rw [run_many1, h, Option.map_some, hrest, hiterate]

/-- Where the parser matches, the greedy run has a match. -/
theorem iterate_value_ne_nil (h : p.run c = some m) : (p.iterate c).value ≠ [] := by
  by_cases hlt : m.rest.remaining < c.remaining
  · rw [iterate_of_lt h hlt]
    exact List.cons_ne_nil _ _
  · rw [iterate_of_not_lt h hlt]
    exact List.cons_ne_nil _ _

/-- The greedy runs that have a match begin where the parser matches. -/
theorem run_filter_many (p : Parser α β) (c : Cursor α) :
    (p.many.filter fun values ↦ !values.isEmpty).run c =
      if (p.run c).isSome then p.many.run c else none := by
  rw [run_filter]
  cases h : p.run c with
  | none =>
    have hmany : p.many.run c = some ⟨[], c⟩ := congrArg some (iterate_of_none h)
    rw [hmany]
    rfl
  | some m =>
    have hvalue := iterate_value_ne_nil h
    simp [many, hvalue]

/-- A repetition that must match at least once is one that need not, restricted to the runs with a
match, exactly if every match of the parser reads something. -/
theorem Built.many1_eq_filter_many_iff (hp : Built p) :
    p.many1 = p.many.filter (fun values ↦ !values.isEmpty) ↔
      ∀ c m, p.run c = some m → m.rest.remaining < c.remaining := by
  constructor
  · intro heq c m h
    refine Decidable.byContradiction fun hlt ↦ ?_
    have hrun : p.many1.run c = p.many.run c := by
      rw [heq, run_filter_many, h]
      rfl
    rw [hp.run_many1_of_not_lt h hlt, hp.run_many_of_not_lt h hlt] at hrun
    simp at hrun
  · intro hlt
    have hrun (c : Cursor α) : p.many1.run c =
        (p.many.filter fun values ↦ !values.isEmpty).run c := by
      rw [run_filter_many]
      cases h : p.run c with
      | none =>
        rw [run_many1, h]
        rfl
      | some m => exact run_many1_of_lt h (hlt c m h)
    exact congrArg Parser.mk (funext hrun)

/-- A repetition that must match at least once matches where its parser does. Where the parser does
not match, the greedy run has no match. Where the match of the parser reads something, both
repetitions are the greedy run. Where it reads nothing, the greedy run is this match alone, and the
repetition that must match at least once makes it twice; both stay where they are. So the latter is
the former restricted to the runs with a match, exactly if every match of the parser reads
something. -/
theorem run_many1_cases (hp : Built p) :
    (∀ c : Cursor α,
      ((p.many1.run c).isSome ↔ (p.run c).isSome) ∧
      (p.run c = none → p.many.run c = some ⟨[], c⟩) ∧
      ∀ m, p.run c = some m →
        (m.rest.remaining < c.remaining → p.many1.run c = p.many.run c) ∧
        (¬ m.rest.remaining < c.remaining →
          p.many.run c = some ⟨[m.value], c⟩ ∧ p.many1.run c = some ⟨[m.value, m.value], c⟩)) ∧
    (p.many1 = p.many.filter (fun values ↦ !values.isEmpty) ↔
      ∀ c m, p.run c = some m → m.rest.remaining < c.remaining) := by
  refine ⟨fun c ↦ ⟨by rw [isSome_run_many1], fun h ↦ congrArg some (iterate_of_none h),
    fun m h ↦ ⟨run_many1_of_lt h, fun hlt ↦ ?_⟩⟩, hp.many1_eq_filter_many_iff⟩
  exact ⟨hp.run_many_of_not_lt h hlt, hp.run_many1_of_not_lt h hlt⟩

/-- A parser that may match without reading anything makes one match before another character and,
asked for at least one, two of them. Before its own character both repetitions are the same run. -/
theorem run_many1_cases_optional :
    let p : Parser Char (Option Char) := (satisfy (· == 'a')).optional
    let c := Cursor.start "ba".toList
    let d := Cursor.start "ab".toList
    p.many.run c = some ⟨[none], c⟩ ∧ p.many1.run c = some ⟨[none, none], c⟩ ∧
      p.many1.run d = p.many.run d ∧ p.many1 ≠ p.many.filter fun values ↦ !values.isEmpty := by
  intro p c d
  have hp : Built p := .optional (.satisfy _)
  have hc : p.run c = some ⟨none, c⟩ := rfl
  have hd : p.run d = some ⟨some 'a', d.skip⟩ := rfl
  obtain ⟨hmany, hmany1⟩ := (((run_many1_cases hp).1 c).2.2 _ hc).2 (Nat.lt_irrefl _)
  have hread := (((run_many1_cases hp).1 d).2.2 _ hd).1 (by decide)
  refine ⟨hmany, hmany1, hread, fun heq ↦ ?_⟩
  exact Nat.lt_irrefl _ ((run_many1_cases hp).2.mp heq c _ hc)

end AtLeastOnce

end ServiceHost.Parser
