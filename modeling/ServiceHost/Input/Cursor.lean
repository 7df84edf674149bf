/-!
# Positions in an input

A cursor is a position in a sequence of items. Every item has a positive width, and the offset
of a cursor is the width of what was read before it. Characters are as wide as their UTF-8
encoding, so offsets in a text count bytes.

## Main definitions

* `Width` : a positive width for each item of an input.
* `Cursor` : the unread items, with the width read so far and the width still to be read.
* `Cursor.Reaches` : one cursor stands at or after another on the same input.
-/

namespace ServiceHost

/-- A positive width for each item of an input. -/
class Width (α : Type) where
  /-- The width of one item. -/
  width : α → Nat
  /-- No item is empty. -/
  width_pos : ∀ item, 0 < width item

/-- A character is as wide as its UTF-8 encoding. -/
instance : Width Char := ⟨Char.utf8Size, Char.utf8Size_pos⟩

/-- The width of a sequence is the sum of the widths of its items. -/
def Width.total {α : Type} [Width α] : List α → Nat
  | [] => 0
  | item :: items => Width.width item + Width.total items

/-- A position in an input: the unread items and the offset from the start. The width of the
unread items is kept at hand. -/
structure Cursor (α : Type) [Width α] where
  /-- The items not yet read. -/
  rest : List α
  /-- The width of the items read so far. -/
  offset : Nat
  /-- The width of the items not yet read. -/
  remaining : Nat
  /-- The kept width is that of the unread items. -/
  remaining_eq : remaining = Width.total rest

namespace Cursor

variable {α : Type} [Width α]

/-- The position with the given unread items at the given offset. -/
def ofRest (offset : Nat) (rest : List α) : Cursor α := ⟨rest, offset, Width.total rest, rfl⟩

/-- The position before the first item of an input. -/
def start (input : List α) : Cursor α := Cursor.ofRest 0 input

/-- Nothing is left to be read. -/
def isAtEnd (c : Cursor α) : Bool := c.rest.isEmpty

/-- The first unread item and the position after it. -/
def next? (c : Cursor α) : Option (α × Cursor α) :=
  match h : c.rest with
  | [] => none
  | item :: rest =>
    some (item, ⟨rest, c.offset + Width.width item, c.remaining - Width.width item, by
      rw [c.remaining_eq, h, Width.total, Nat.add_sub_cancel_left]⟩)

/-- The position after the first unread item, or the same position at the end. -/
def skip (c : Cursor α) : Cursor α :=
  match c.next? with
  | none => c
  | some (_, next) => next

/-- The cursor `d` stands at or after `c` on the same input. -/
def Reaches (c d : Cursor α) : Prop :=
  ∃ read, c.rest = read ++ d.rest ∧ d.offset = c.offset + Width.total read

/-! ### Lemmas -/

@[simp] theorem rest_ofRest (offset : Nat) (rest : List α) :
    (Cursor.ofRest offset rest).rest = rest := rfl

@[simp] theorem offset_ofRest (offset : Nat) (rest : List α) :
    (Cursor.ofRest offset rest).offset = offset := rfl

/-- A position is determined by its offset and its unread items. -/
theorem eq_ofRest (c : Cursor α) : c = Cursor.ofRest c.offset c.rest := by
  obtain ⟨rest, offset, remaining, rfl⟩ := c
  rfl

@[ext] theorem ext {c d : Cursor α} (hrest : c.rest = d.rest) (hoffset : c.offset = d.offset) :
    c = d := by
  rw [c.eq_ofRest, d.eq_ofRest, hrest, hoffset]

@[simp] theorem next?_ofRest_nil (offset : Nat) :
    (Cursor.ofRest offset ([] : List α)).next? = none := rfl

@[simp] theorem next?_ofRest_cons (offset : Nat) (item : α) (rest : List α) :
    (Cursor.ofRest offset (item :: rest)).next? =
      some (item, Cursor.ofRest (offset + Width.width item) rest) :=
  congrArg (fun d : Cursor α ↦ some (item, d)) (Cursor.ext rfl rfl)

end Cursor

namespace Width

variable {α : Type} [Width α]

theorem total_append (xs ys : List α) : total (xs ++ ys) = total xs + total ys := by
  induction xs with
  | nil => simp [total]
  | cons x xs ih => simp [total, ih, Nat.add_assoc]

/-- Only the empty sequence has no width. -/
theorem total_eq_zero {xs : List α} : total xs = 0 ↔ xs = [] := by
  cases xs with
  | nil => simp [total]
  | cons x xs =>
    have hpos := width_pos x
    simp only [total, reduceCtorEq, iff_false]
    omega

end Width

namespace Cursor

variable {α : Type} [Width α]

theorem Reaches.refl (c : Cursor α) : c.Reaches c := ⟨[], by simp [Width.total]⟩

theorem Reaches.trans {c d e : Cursor α} (hcd : c.Reaches d) (hde : d.Reaches e) :
    c.Reaches e := by
  obtain ⟨xs, hxs, hoffset⟩ := hcd
  obtain ⟨ys, hys, hoffset'⟩ := hde
  exact ⟨xs ++ ys, by rw [hxs, hys, List.append_assoc], by
    rw [hoffset', hoffset, Width.total_append, Nat.add_assoc]⟩

/-- What is read and what remains add up to what remained. -/
theorem Reaches.offset_add_remaining {c d : Cursor α} (h : c.Reaches d) :
    d.offset + d.remaining = c.offset + c.remaining := by
  obtain ⟨read, hrest, hoffset⟩ := h
  rw [c.remaining_eq, d.remaining_eq, hrest, Width.total_append, hoffset, Nat.add_assoc]

/-- A later position at the same offset is the same position. -/
theorem Reaches.eq_of_offset_eq {c d : Cursor α} (h : c.Reaches d) (heq : d.offset = c.offset) :
    d = c := by
  obtain ⟨read, hrest, hoffset⟩ := h
  have hread : read = [] := Width.total_eq_zero.mp (by omega)
  subst hread
  exact ext hrest.symm heq

end Cursor

end ServiceHost
