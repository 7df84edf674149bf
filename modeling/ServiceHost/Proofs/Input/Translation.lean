import ServiceHost.Proofs.Input.Reading

/-!
# Parsers at other positions

A parser formed without a look at the offset does not depend on where its input begins: behind
other inputs of any length it reads the same of the same unread items. So one parser can be used at
every position, and what it does at one of them is known from any other.

## Main definitions

* `Match.ReadsAlike` : two matches read the same items, each from its own position.

## Main results

* `Parser.run_translated` : where the same is unread, a parser without a look at the offset matches
  alike or not at all.
-/

namespace ServiceHost

variable {α β γ : Type} [Width α]

/-- Two matches read the same items, each from its own position: they yield the same value, move
forward by the same width and leave the same items. -/
structure Match.ReadsAlike (c d : Cursor α) (m m' : Match α β) : Prop where
  /-- The values are the same. -/
  value_eq : m'.value = m.value
  /-- The items left are the same. -/
  rest_eq : m'.rest.rest = m.rest.rest
  /-- The items read are the same, and both offsets grow by their width. -/
  exists_read : ∃ read, c.rest = read ++ m.rest.rest ∧ d.rest = read ++ m'.rest.rest ∧
    m.rest.offset = c.offset + Width.total read ∧ m'.rest.offset = d.offset + Width.total read

namespace Parser

/-! ### The parsers

The combinators that are defined through others do not look at the offset either. -/

section Combinators

variable {p : Parser α β} {q : Parser α γ}

theorem invariant_any : Invariant (any : Parser α α) := .satisfy _

theorem invariant_seqRight (hp : Invariant p) (hq : Invariant q) : Invariant (p *> q) :=
  .bind hp fun _ ↦ hq

theorem invariant_seqLeft (hp : Invariant p) (hq : Invariant q) : Invariant (p <* q) :=
  .bind hp fun _ ↦ .bind hq fun _ ↦ .pure _

theorem invariant_pair (hp : Invariant p) (hq : Invariant q) : Invariant (p.pair q) :=
  .bind hp fun _ ↦ .bind hq fun _ ↦ .pure _

end Combinators

/-! ### Two positions -/

/-- Matches with the same value that leave the same items have read the same, if the same was
unread before. -/
theorem Built.readsAlike {p : Parser α β} (hp : Built p) {c d : Cursor α} {m m' : Match α β}
    (hm : p.run c = some m) (hm' : p.run d = some m') (h : c.rest = d.rest)
    (hvalue : m'.value = m.value) (hrest : m'.rest.rest = m.rest.rest) :
    Match.ReadsAlike c d m m' := by
  obtain ⟨read, hread, hoffset⟩ := hp.reaches hm
  obtain ⟨read', hread', hoffset'⟩ := hp.reaches hm'
  obtain rfl : read' = read := by
    rw [← h, hread, hrest] at hread'
    exact (List.append_cancel_right hread').symm
  exact ⟨hvalue, hrest, read', hread, hread', hoffset, hoffset'⟩

/-- A parser formed without a look at the offset, with any predicates, functions and continuations,
matches at two positions with the same unread items alike or at neither of them, whatever was read
before on each of the two inputs. -/
theorem run_translated {p : Parser α β} (hp : Invariant p) {c d : Cursor α}
    (h : c.rest = d.rest) : Option.Rel (Match.ReadsAlike c d) (p.run c) (p.run d) := by
  have hview := hp.view_eq h
  cases hc : p.run c with
  | none =>
    have hd : p.run d = none := view_eq_none.mp (by rw [← hview, hc]; rfl)
    rw [hd]
    exact .none
  | some m =>
    obtain ⟨m', hd, hvalue, hrest⟩ := exists_of_view_eq hview hc
    rw [hd]
    exact .some (hp.built.readsAlike hc hd h hvalue hrest)

/-- A parser of pairs of equal items, behind any item and before a colon or nothing, reads eight
bytes at the start of one input and behind a character of two bytes on another one. -/
theorem run_translated_doubled :
    let doubled : Parser Char Char := any >>= fun item ↦ satisfy (· == item)
    let p := ((any *> doubled) <* (satisfy (· == ':')).optional).many1.pair any
    let c := Cursor.start "xaa:ybbc".toList
    let d := (Cursor.start "éxaa:ybbc".toList).skip
    Invariant p ∧ c.rest = d.rest ∧ ∃ m m', p.run c = some m ∧ p.run d = some m' ∧
      Match.ReadsAlike c d m m' ∧ m'.value = (['a', 'b'], 'c') ∧
      m.rest.offset = 8 ∧ m'.rest.offset = 10 := by
  intro doubled p c d
  have hdoubled : Invariant doubled := invariant_bind invariant_any fun _ ↦ .satisfy _
  have hpiece := invariant_seqLeft (invariant_seqRight invariant_any hdoubled)
    (.optional (.satisfy (· == ':')))
  have hp : Invariant p := invariant_pair (invariant_many1 hpiece) invariant_any
  have hrest : c.rest = d.rest := rfl
  have hread : (p.run c).map (fun m ↦ (m.value, m.rest.offset)) =
      some ((['a', 'b'], 'c'), 8) := by
    decide +kernel
  obtain ⟨m, hm, hmatch⟩ := Option.map_eq_some_iff.mp hread
  obtain ⟨hvalue, hoffset⟩ := Prod.mk.inj hmatch
  have halike := run_translated hp hrest
  rw [hm] at halike
  cases hd : p.run d with
  | none =>
    rw [hd] at halike
    cases halike
  | some m' =>
    rw [hd, Option.rel_some_some] at halike
    obtain ⟨read, -, -, hc, hc'⟩ := halike.exists_read
    have hstart : c.offset = 0 ∧ d.offset = 2 := ⟨rfl, rfl⟩
    exact ⟨hp, hrest, m, m', hm, rfl, halike, halike.value_eq.trans hvalue, hoffset, by omega⟩

end Parser

end ServiceHost
