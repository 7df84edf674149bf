import Mathlib.Logic.Basic
import Mathlib.Tactic.SplitIfs
import ServiceHost.Input.Built

/-!
# Parsers as functions on the unread items

A parser built from the combinators only moves forward on its input, so what it leaves unread
determines the position where it stops. A parser built without a look at the offset moreover
depends on nothing but the unread items. Such a parser is a partial function from the items to a
value and the items left (`Parser.on`), and its combinators are those of partial functions.

## Main definitions

* `Cursor.seek` : the position on the same input with given unread items.
* `Parser.on` : what a parser reads at the beginning of a list of items.

## Main results

* `Parser.Built.reaches` : a match stands at or after the position where it began.
* `Parser.Invariant.run_eq` : a parser that does not look at the offset is determined by `on`.
-/

namespace ServiceHost

variable {α β γ : Type} [Width α]

/-! ### Positions on one input -/

theorem Width.total_le_of_suffix {xs ys : List α} (h : xs <:+ ys) : total xs ≤ total ys := by
  obtain ⟨read, rfl⟩ := h
  rw [total_append]
  exact Nat.le_add_left _ _

namespace Cursor

@[simp] theorem rest_start (items : List α) : (Cursor.start items).rest = items := rfl

/-- The position on the same input with the given unread items. -/
def seek (c : Cursor α) (rest : List α) : Cursor α :=
  ofRest (c.offset + c.remaining - Width.total rest) rest

@[simp] theorem rest_seek (c : Cursor α) (rest : List α) : (c.seek rest).rest = rest := rfl

/-- A later position is determined by what is unread there. -/
theorem Reaches.eq_seek {c d : Cursor α} (h : c.Reaches d) : d = c.seek d.rest := by
  refine ext rfl ?_
  have hsum := h.offset_add_remaining
  rw [d.remaining_eq] at hsum
  simp only [seek, offset_ofRest]
  omega

theorem reaches_of_next? {c d : Cursor α} {item : α} (h : c.next? = some (item, d)) :
    c.Reaches d := by
  rw [c.eq_ofRest] at h ⊢
  cases hrest : c.rest with
  | nil => simp [hrest] at h
  | cons first following =>
    rw [hrest, next?_ofRest_cons] at h
    obtain ⟨rfl, rfl⟩ : first = item ∧ ofRest _ following = d := by simpa using h
    exact ⟨[first], rfl, rfl⟩

/-- The offset of a later position is the offset of the earlier one and the width between them. -/
theorem offset_seek {c : Cursor α} {rest : List α} (h : rest <:+ c.rest) :
    (c.seek rest).offset = c.offset + (Width.total c.rest - Width.total rest) := by
  have hle := Width.total_le_of_suffix h
  simp only [seek, offset_ofRest, c.remaining_eq]
  omega

end Cursor

namespace Parser

/-! ### Parsers move forward -/

section Forward

variable {p : Parser α β}

theorem reaches_of_satisfy {accepts : α → Bool} {c : Cursor α} {m : Match α α}
    (h : (satisfy accepts).run c = some m) : c.Reaches m.rest := by
  obtain ⟨⟨item, d⟩, hnext, hif⟩ := Option.bind_eq_some_iff.mp h
  dsimp only at hif
  split at hif
  · cases hif
    exact Cursor.reaches_of_next? hnext
  · cases hif

theorem run_bind (p : Parser α β) (next : β → Parser α γ) (c : Cursor α) :
    (p >>= next).run c = (p.run c).bind fun m ↦ (next m.value).run m.rest := rfl

theorem run_spanned (p : Parser α β) (c : Cursor α) :
    p.spanned.run c = (p.run c).map fun m ↦ ⟨⟨m.value, c.offset, m.rest.offset⟩, m.rest⟩ := rfl

theorem run_optional (p : Parser α β) (c : Cursor α) :
    p.optional.run c = some (((p.run c).map fun m ↦ ⟨some m.value, m.rest⟩).getD ⟨none, c⟩) := by
  simp only [optional]
  cases p.run c <;> rfl

theorem run_filter (accepts : β → Bool) (p : Parser α β) (c : Cursor α) :
    (p.filter accepts).run c = (p.run c).bind fun m ↦ if accepts m.value then some m else none := by
  simp only [filter]
  cases p.run c <;> rfl

theorem iterate_of_none {c : Cursor α} (h : p.run c = none) : p.iterate c = ⟨[], c⟩ := by
  rw [iterate, h]

theorem iterate_of_lt {c : Cursor α} {m : Match α β} (h : p.run c = some m)
    (hlt : m.rest.remaining < c.remaining) :
    p.iterate c = ⟨m.value :: (p.iterate m.rest).value, (p.iterate m.rest).rest⟩ := by
  rw [iterate, h]
  exact if_pos hlt

theorem iterate_of_not_lt {c : Cursor α} {m : Match α β} (h : p.run c = some m)
    (hlt : ¬ m.rest.remaining < c.remaining) : p.iterate c = ⟨[m.value], m.rest⟩ := by
  rw [iterate, h]
  exact if_neg hlt

/-- A repetition moves forward if each of its steps does. -/
theorem reaches_iterate (hp : ∀ {c m}, p.run c = some m → c.Reaches m.rest) (c : Cursor α) :
    c.Reaches (p.iterate c).rest := by
  fun_induction iterate p c with
  | case1 c h => exact .refl c
  | case2 c m h hlt following ih => exact (hp h).trans ih
  | case3 c m h hlt => exact hp h

/-- A match of a parser built from the combinators stands at or after the position where it
began, on the same input. -/
theorem Built.reaches {β : Type} {p : Parser α β} (hp : Built p) :
    ∀ {c : Cursor α} {m : Match α β}, p.run c = some m → c.Reaches m.rest := by
  induction hp with
  | pure value => rintro c m ⟨⟩; exact .refl c
  | fail => rintro c m ⟨⟩
  | satisfy accepts => exact reaches_of_satisfy
  | atEnd | atStart | boundary =>
    intro c m h
    obtain ⟨-, h⟩ := Option.ite_none_right_eq_some.mp h
    cases h
    exact .refl c
  | map f hp ih =>
    intro c m h
    obtain ⟨m', hm, rfl⟩ := Option.map_eq_some_iff.mp h
    exact ih hm
  | bind hp hnext ih ihnext =>
    intro c m h
    obtain ⟨m', hm, h⟩ := Option.bind_eq_some_iff.mp h
    exact (ih hm).trans (ihnext _ h)
  | orElse hp hq ihp ihq =>
    intro c m h
    rcases Option.or_eq_some_iff.mp h with h | ⟨-, h⟩
    · exact ihp h
    · exact ihq h
  | firstMatch hall ih =>
    intro c m h
    obtain ⟨q, hq, hm⟩ := List.exists_of_findSome?_eq_some h
    exact ih q hq hm
  | filter accepts hp ih =>
    intro c m h
    exact ih (Option.filter_eq_some_iff.mp h).1
  | filterMap f hp ih =>
    intro c m h
    obtain ⟨m', hm, h⟩ := Option.bind_eq_some_iff.mp h
    obtain ⟨value, -, rfl⟩ := Option.map_eq_some_iff.mp h
    exact ih hm
  | @optional β p hp ih =>
    intro c m h
    rw [run_optional] at h
    cases hm : p.run c with
    | none =>
      rw [hm] at h
      cases h
      exact .refl c
    | some m' =>
      rw [hm] at h
      cases h
      exact ih hm
  | spanned hp ih =>
    intro c m h
    obtain ⟨m', hm, rfl⟩ := Option.map_eq_some_iff.mp h
    exact ih hm
  | many hp ih =>
    rintro c m ⟨⟩
    exact reaches_iterate ih c

end Forward

/-! ### Parsers without a look at the offset -/

/-- What a match yields: its value and the items left, without the offset. -/
def view (out : Option (Match α β)) : Option (β × List α) :=
  out.map fun m ↦ (m.value, m.rest.rest)

/-- What a parser reads at the beginning of the items: its value and the items left. -/
def on (p : Parser α β) (items : List α) : Option (β × List α) :=
  view (p.run (Cursor.start items))

section Invariant

variable {p : Parser α β}

/-- Where an outcome with the same view as another is a match, so is the other, with the same
value and the same items left. -/
theorem exists_of_view_eq {out out' : Option (Match α β)} {m : Match α β}
    (h : view out = view out') (hm : out = some m) :
    ∃ m', out' = some m' ∧ m'.value = m.value ∧ m'.rest.rest = m.rest.rest := by
  subst hm
  obtain ⟨m', hm', heq⟩ := Option.map_eq_some_iff.mp h.symm
  exact ⟨m', hm', Prod.mk.inj heq⟩

theorem view_eq_none {out : Option (Match α β)} : view out = none ↔ out = none :=
  Option.map_eq_none_iff

theorem remaining_eq_of_rest_eq {c d : Cursor α} (h : c.rest = d.rest) :
    c.remaining = d.remaining := by
  rw [c.remaining_eq, d.remaining_eq, h]

/-- A repetition depends on the unread items only if each of its steps does. -/
theorem view_iterate_eq
    (hp : ∀ {c d : Cursor α}, c.rest = d.rest → view (p.run c) = view (p.run d))
    {c d : Cursor α} (h : c.rest = d.rest) :
    (p.iterate c).value = (p.iterate d).value ∧
      (p.iterate c).rest.rest = (p.iterate d).rest.rest := by
  induction c using iterate.induct p generalizing d with
  | case1 c hc =>
    have hd : p.run d = none := view_eq_none.mp (by rw [← hp h, hc]; rfl)
    rw [iterate_of_none hc, iterate_of_none hd]
    exact ⟨rfl, h⟩
  | case2 c m hc hlt ih =>
    obtain ⟨m', hd, hvalue, hrest⟩ := exists_of_view_eq (hp h) hc
    have hlt' : m'.rest.remaining < d.remaining := by
      rwa [remaining_eq_of_rest_eq hrest, ← remaining_eq_of_rest_eq h]
    obtain ⟨ihvalue, ihrest⟩ := ih hrest.symm
    rw [iterate_of_lt hc hlt, iterate_of_lt hd hlt', hvalue]
    exact ⟨congrArg (m.value :: ·) ihvalue, ihrest⟩
  | case3 c m hc hlt =>
    obtain ⟨m', hd, hvalue, hrest⟩ := exists_of_view_eq (hp h) hc
    have hlt' : ¬ m'.rest.remaining < d.remaining := by
      rwa [remaining_eq_of_rest_eq hrest, ← remaining_eq_of_rest_eq h]
    rw [iterate_of_not_lt hc hlt, iterate_of_not_lt hd hlt', hvalue]
    exact ⟨rfl, hrest.symm⟩

theorem view_bind_congr {out out' : Option (Match α β)} {f f' : Match α β → Option (Match α γ)}
    (h : view out = view out')
    (hf : ∀ {m m'}, m.value = m'.value → m.rest.rest = m'.rest.rest → view (f m) = view (f' m')) :
    view (out.bind f) = view (out'.bind f') := by
  cases hout : out with
  | none =>
    obtain rfl : out' = none := view_eq_none.mp (by rw [← h, hout]; rfl)
    rfl
  | some m =>
    obtain ⟨m', rfl, hvalue, hrest⟩ := exists_of_view_eq h hout
    exact hf hvalue.symm hrest.symm

theorem view_findSome?_congr {δ : Type} {f f' : δ → Option (Match α β)} {l : List δ}
    (h : ∀ x ∈ l, view (f x) = view (f' x)) : view (l.findSome? f) = view (l.findSome? f') := by
  induction l with
  | nil => rfl
  | cons x l ih =>
    have hx := h x List.mem_cons_self
    have hl := ih fun y hy ↦ h y (List.mem_cons_of_mem x hy)
    cases hf : f x with
    | none =>
      have hf' : f' x = none := view_eq_none.mp (by rw [← hx, hf]; rfl)
      rwa [List.findSome?_cons, List.findSome?_cons, hf, hf']
    | some m =>
      obtain ⟨m', hf', -⟩ := exists_of_view_eq hx hf
      rw [hf, hf'] at hx
      rwa [List.findSome?_cons, List.findSome?_cons, hf, hf']

/-- A parser formed without a look at the offset is formed from the combinators. -/
theorem Invariant.built {β : Type} {p : Parser α β} (hp : Invariant p) : Built p := by
  induction hp with
  | pure value => exact .pure value
  | fail => exact .fail
  | satisfy accepts => exact .satisfy accepts
  | atEnd => exact .atEnd
  | boundary closes => exact .boundary closes
  | map f _ ih => exact .map f ih
  | bind _ _ ih ihnext => exact .bind ih ihnext
  | orElse _ _ ihp ihq => exact .orElse ihp ihq
  | firstMatch _ ih => exact .firstMatch ih
  | filter accepts _ ih => exact .filter accepts ih
  | filterMap f _ ih => exact .filterMap f ih
  | optional _ ih => exact .optional ih
  | many _ ih => exact .many ih

/-- What a parser formed without a look at the offset reads depends on the unread items only. -/
theorem Invariant.view_eq {β : Type} {p : Parser α β} (hp : Invariant p) :
    ∀ {c d : Cursor α}, c.rest = d.rest → view (p.run c) = view (p.run d) := by
  induction hp with
  | pure value =>
    intro c d h
    exact congrArg (fun rest ↦ some (value, rest)) h
  | fail => exact fun _ ↦ rfl
  | satisfy accepts =>
    intro c d h
    rw [c.eq_ofRest, d.eq_ofRest, h]
    cases d.rest with
    | nil => rfl
    | cons item rest =>
      simp only [Parser.satisfy, Cursor.next?_ofRest_cons, Option.bind_some]
      split <;> rfl
  | atEnd =>
    intro c d h
    by_cases hend : d.rest.isEmpty <;> simp [Parser.atEnd, Cursor.isAtEnd, view, h]
  | boundary closes =>
    intro c d h
    by_cases hcloses : d.rest.head?.all closes <;> simp [Parser.boundary, view, h, hcloses]
  | map f _ ih =>
    intro c d h
    simp only [Parser.map, Option.map_eq_bind]
    refine view_bind_congr (ih h) fun hvalue hrest ↦ ?_
    simp only [Function.comp_apply, view, Option.map_some, hvalue, hrest]
  | bind _ _ ih ihnext =>
    intro c d h
    refine view_bind_congr (ih h) fun {m m'} hvalue hrest ↦ ?_
    rw [hvalue]
    exact ihnext _ hrest
  | orElse _ _ ihp ihq =>
    intro c d h
    simp only [Parser.orElse, view, Option.map_or]
    exact congrArg₂ Option.or (ihp h) (ihq h)
  | firstMatch _ ih =>
    intro c d h
    exact view_findSome?_congr fun q hq ↦ ih q hq h
  | filter accepts _ ih =>
    intro c d h
    rw [run_filter, run_filter]
    refine view_bind_congr (ih h) fun {m m'} hvalue hrest ↦ ?_
    rw [hvalue]
    split_ifs
    · exact congrArg₂ (fun value rest ↦ some (value, rest)) hvalue hrest
    · rfl
  | filterMap f _ ih =>
    intro c d h
    refine view_bind_congr (ih h) fun {m m'} hvalue hrest ↦ ?_
    rw [hvalue]
    cases f m'.value with
    | none => rfl
    | some value => exact congrArg (fun rest ↦ some (value, rest)) hrest
  | @optional β p _ ih =>
    intro c d h
    rw [run_optional, run_optional]
    cases hc : p.run c with
    | none =>
      rw [view_eq_none.mp ((ih h).symm.trans (hc ▸ rfl))]
      exact congrArg (fun rest ↦ some (none, rest)) h
    | some m =>
      obtain ⟨m', hd, hvalue, hrest⟩ := exists_of_view_eq (ih h) hc
      rw [hd]
      exact congrArg₂ (fun value rest ↦ some (some value, rest)) hvalue.symm hrest.symm
  | many _ ih =>
    intro c d h
    obtain ⟨hvalue, hrest⟩ := view_iterate_eq ih h
    exact congrArg₂ (fun values rest ↦ some (values, rest)) hvalue hrest

/-- A parser formed without a look at the offset is determined by what it reads at the beginning
of the unread items. -/
theorem Invariant.run_eq {β : Type} {p : Parser α β} (hp : Invariant p) (c : Cursor α) :
    p.run c = (p.on c.rest).map fun out ↦ ⟨out.1, c.seek out.2⟩ := by
  rw [on, hp.view_eq (Cursor.rest_start c.rest), view, Option.map_map]
  cases hc : p.run c with
  | none => rfl
  | some m =>
    have hrest : m.rest = c.seek m.rest.rest := (hp.built.reaches hc).eq_seek
    exact congrArg (fun rest ↦ some (Match.mk m.value rest)) hrest

end Invariant

/-! ### The combinators as combinators of partial functions -/

section On

theorem invariant_pure (value : β) : Invariant (pure value : Parser α β) := .pure value

theorem invariant_bind {p : Parser α β} {next : β → Parser α γ} (hp : Invariant p)
    (hnext : ∀ value, Invariant (next value)) : Invariant (p >>= next) := .bind hp hnext

theorem invariant_map {p : Parser α β} (f : β → γ) (hp : Invariant p) : Invariant (f <$> p) :=
  .map f hp

theorem invariant_orElse {p q : Parser α β} (hp : Invariant p) (hq : Invariant q) :
    Invariant (p <|> q) := .orElse hp hq

theorem invariant_many1 {p : Parser α β} (hp : Invariant p) : Invariant p.many1 :=
  invariant_bind hp fun _ ↦ invariant_bind (.many hp) fun _ ↦ invariant_pure _

theorem view_pure (value : β) (c : Cursor α) :
    view ((pure value : Parser α β).run c) = some (value, c.rest) := rfl

/-- In a sequence the second parser goes on with what the first one leaves. -/
theorem view_bind {p : Parser α β} (hp : Invariant p) (next : β → Parser α γ) (c : Cursor α) :
    view ((p >>= next).run c) =
      (p.on c.rest).bind fun out ↦ view ((next out.1).run (c.seek out.2)) := by
  rw [run_bind, hp.run_eq c]
  cases p.on c.rest <;> rfl

theorem on_map (f : β → γ) (p : Parser α β) (items : List α) :
    (f <$> p).on items = (p.on items).map (Prod.map f id) := by
  change view ((p.run (Cursor.start items)).map _) = (view (p.run (Cursor.start items))).map _
  cases p.run (Cursor.start items) <;> rfl

theorem on_orElse (p q : Parser α β) (items : List α) :
    (p <|> q).on items = (p.on items).or (q.on items) :=
  Option.map_or

theorem on_filter (accepts : β → Bool) (p : Parser α β) (items : List α) :
    (p.filter accepts).on items = (p.on items).filter fun out ↦ accepts out.1 := by
  rw [on, run_filter, on]
  cases p.run (Cursor.start items) with
  | none => rfl
  | some m =>
    simp only [Option.bind_some, view, Option.map_some, Option.filter_some]
    split_ifs <;> rfl

theorem on_optional (p : Parser α β) (items : List α) :
    p.optional.on items =
      some (((p.on items).map fun out ↦ (some out.1, out.2)).getD (none, items)) := by
  rw [on, run_optional, on]
  cases p.run (Cursor.start items) <;> rfl

@[simp] theorem on_satisfy_nil (accepts : α → Bool) : (satisfy accepts).on [] = none := rfl

@[simp] theorem on_satisfy_cons (accepts : α → Bool) (item : α) (items : List α) :
    (satisfy accepts).on (item :: items) = if accepts item then some (item, items) else none := by
  simp only [on, satisfy, Cursor.start, Cursor.next?_ofRest_cons, Option.bind_some]
  split_ifs <;> rfl

theorem on_boundary (closes : α → Bool) (items : List α) :
    (boundary closes).on items = if items.head?.all closes then some ((), items) else none := by
  by_cases hcloses : items.head?.all closes <;> simp [on, boundary, view, hcloses]

theorem on_many (p : Parser α β) (items : List α) :
    p.many.on items = some ((p.iterate (Cursor.start items)).value,
      (p.iterate (Cursor.start items)).rest.rest) := rfl

theorem on_many_of_none {p : Parser α β} {items : List α} (h : p.on items = none) :
    p.many.on items = some ([], items) := by
  rw [on_many, iterate_of_none (view_eq_none.mp h)]
  rfl

/-- A repetition goes on with the items that a step leaves, if the step read some. -/
theorem on_many_of_lt {p : Parser α β} (hp : Invariant p) {items rest : List α} {value : β}
    (h : p.on items = some (value, rest)) (hlt : Width.total rest < Width.total items) :
    p.many.on items = (p.many.on rest).map (Prod.map (value :: ·) id) := by
  have hrun := hp.run_eq (Cursor.start items)
  rw [Cursor.rest_start, h, Option.map_some] at hrun
  have hlt' : ((Cursor.start items).seek rest).remaining < (Cursor.start items).remaining := by
    rwa [Cursor.remaining_eq, Cursor.remaining_eq]
  obtain ⟨hvalue, hrest⟩ := view_iterate_eq hp.view_eq
    (show ((Cursor.start items).seek rest).rest = (Cursor.start rest).rest from rfl)
  rw [on_many, iterate_of_lt hrun hlt', on_many, hvalue, hrest]
  rfl

/-- The greedy repetition of a single item reads the longest run of such items. -/
theorem on_many_satisfy (accepts : α → Bool) (items : List α) :
    (satisfy accepts).many.on items = some (items.takeWhile accepts, items.dropWhile accepts) := by
  induction items with
  | nil => exact on_many_of_none (on_satisfy_nil accepts)
  | cons item items ih =>
    by_cases haccepts : accepts item
    · have hstep : (satisfy accepts).on (item :: items) = some (item, items) := by
        rw [on_satisfy_cons, if_pos haccepts]
      have hlt : Width.total items < Width.total (item :: items) :=
        Nat.lt_add_of_pos_left (Width.width_pos item)
      rw [on_many_of_lt (.satisfy accepts) hstep hlt, ih, List.takeWhile_cons_of_pos haccepts,
        List.dropWhile_cons_of_pos haccepts]
      rfl
    · have hstep : (satisfy accepts).on (item :: items) = none := by
        rw [on_satisfy_cons, if_neg haccepts]
      rw [on_many_of_none hstep, List.takeWhile_cons_of_neg haccepts,
        List.dropWhile_cons_of_neg haccepts]

theorem on_many1_satisfy (accepts : α → Bool) (items : List α) :
    (satisfy accepts).many1.on items =
      if items.head?.any accepts then some (items.takeWhile accepts, items.dropWhile accepts)
      else none := by
  rw [on, many1]
  simp only [view_bind (.satisfy _), view_bind (.many (.satisfy _)), view_pure,
    Cursor.rest_start, Cursor.rest_seek, on_many_satisfy]
  cases items with
  | nil => simp
  | cons item items => by_cases haccepts : accepts item <;> simp [haccepts]

end On

end Parser

end ServiceHost
