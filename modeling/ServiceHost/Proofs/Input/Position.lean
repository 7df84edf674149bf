import ServiceHost.Proofs.Input.Repetition
import ServiceHost.Proofs.Token.Coverage

/-!
# Positions that parsers reach

The positions of an input are its start, the position after each item, and whatever a parser built
from the combinators leaves. At each of them the items read and the items unread make up the input,
so that the offset lies within the input, and in a text between two characters. The offset alone
then says what is unread.

## Main definitions

* `Cursor.Reachable` : a position that reading can lead to.
* `Cursor.Within` : a position of an input, by its offset and by what is unread.

## Main results

* `Cursor.Reachable.reaches` : such a position stands at or after the start.
* `Parser.run_within` : a parser stays within its input and comes to an end.
-/

namespace ServiceHost

open ServiceHost.Parser

variable {α β γ : Type} [Width α] {input : List α} {c : Cursor α}

/-! ### The parsers

The combinators that are defined through others form parsers of the same kind. -/

namespace Parser

theorem built_any : Built (any : Parser α α) := .satisfy _

theorem built_map (f : β → γ) {p : Parser α β} (hp : Built p) : Built (f <$> p) := .map f hp

theorem built_seqRight {p : Parser α β} {q : Parser α γ} (hp : Built p) (hq : Built q) :
    Built (p *> q) := .bind hp fun _ ↦ hq

theorem built_seqLeft {p : Parser α β} {q : Parser α γ} (hp : Built p) (hq : Built q) :
    Built (p <* q) := .bind hp fun _ ↦ .bind hq fun _ ↦ .pure _

theorem built_pair {p : Parser α β} {q : Parser α γ} (hp : Built p) (hq : Built q) :
    Built (p.pair q) := .bind hp fun _ ↦ .bind hq fun _ ↦ .pure _

theorem built_many1 {p : Parser α β} (hp : Built p) : Built p.many1 :=
  .bind hp fun _ ↦ .bind (.many hp) fun _ ↦ .pure _

end Parser

/-- Tokens are counted one by one. -/
theorem Width.total_eq_length (tokens : List Token) : Width.total tokens = tokens.length := by
  induction tokens with
  | nil => rfl
  | cons token tokens ih =>
    rw [Width.total, ih, List.length_cons, Nat.add_comm]
    rfl

namespace Cursor

/-! ### Reachable positions -/

/-- A position that reading an input from its start can lead to, item by item or by a parser built
from the combinators. -/
inductive Reachable (input : List α) : Cursor α → Prop
  /-- The start is reachable. -/
  | start : Reachable input (Cursor.start input)
  /-- From a reachable position, so is the position after the first unread item. -/
  | next {c d : Cursor α} {item : α} (hc : Reachable input c) (h : c.next? = some (item, d)) :
      Reachable input d
  /-- So is the position after the match of a parser. -/
  | run {β : Type} {p : Parser α β} {c : Cursor α} {m : Match α β} (hp : Built p)
      (hc : Reachable input c) (h : p.run c = some m) : Reachable input m.rest

/-- Reading only moves forward from the start. -/
theorem Reachable.reaches (h : Reachable input c) : (Cursor.start input).Reaches c := by
  induction h with
  | start => exact .refl _
  | next _ h ih => exact ih.trans (reaches_of_next? h)
  | run hp _ h ih => exact ih.trans (hp.reaches h)

/-- The position is one of the input, with the right offset. -/
structure Within (input : List α) (c : Cursor α) : Prop where
  /-- What was read is the input without what is unread, and the offset is its width. -/
  exists_read : ∃ read, input = read ++ c.rest ∧ c.offset = Width.total read
  /-- The offset lies within the input. -/
  offset_le : c.offset ≤ Width.total input
  /-- The offset and the width that remains make up the width of the input. -/
  offset_add_remaining : c.offset + c.remaining = Width.total input

theorem Reachable.within (h : Reachable input c) : c.Within input := by
  obtain ⟨read, hrest, hoffset⟩ := h.reaches
  have hinput : input = read ++ c.rest := hrest
  have hread : c.offset = Width.total read := hoffset.trans (Nat.zero_add _)
  have hsum : c.offset + c.remaining = Width.total input := by
    rw [hread, c.remaining_eq, hinput, Width.total_append]
  exact ⟨⟨read, hinput, hread⟩, by omega, hsum⟩

/-! ### Positions in a text and in a list of tokens -/

/-- The offset of a position in a text stands between two characters, and the text from there is
what is unread. -/
theorem Within.slice_eq {text : String} {c : Cursor Char} (h : c.Within text.toList) :
    (⟨c.offset⟩ : String.Pos.Raw).IsValid text ∧
      (Span.mk c.offset text.utf8ByteSize).slice text = String.ofList c.rest := by
  obtain ⟨read, htext, hoffset⟩ := h.exists_read
  have htext' : text = String.ofList (read ++ c.rest) := by rw [← htext, String.ofList_toList]
  have hvalid := isValid_total read c.rest
  have hslice := Span.slice_ofList read c.rest []
  rw [List.append_nil, Width.total_eq_utf8ByteSize (read ++ c.rest)] at hslice
  rw [hoffset, htext']
  exact ⟨hvalid, hslice⟩

/-- The offset of a position in a list of tokens counts the tokens before it. -/
theorem Within.rest_eq_drop {tokens : List Token} {c : Cursor Token} (h : c.Within tokens) :
    c.rest = tokens.drop c.offset := by
  obtain ⟨read, htokens, hoffset⟩ := h.exists_read
  rw [hoffset, Width.total_eq_length, htokens, List.drop_left]

end Cursor

/-! ### Parsers stay within their input -/

namespace Parser

/-- A parser built from the combinators comes to an end at every reachable position: repeated, it
makes a greedy run, of at most one match more than what remains. It stays within the input. The
position after a match is one of the same input, stands at or after the position where the parser
began, and has an offset that together with what remains makes up the width of the input. A range
that is added to a match begins and ends with the offsets of these two positions. In a text every
offset stands between two characters, and in a list of tokens it counts tokens, so that the input
from there is what is unread. -/
theorem run_within :
    (∀ {α β : Type} [Width α] {p : Parser α β} {input : List α} {c : Cursor α},
      Built p → c.Reachable input →
        (∃ values d, p.many.run c = some ⟨values, d⟩ ∧ Chain p c values d ∧
          values.length ≤ c.remaining + 1) ∧
        c.Within input ∧
        (∀ m, p.run c = some m → m.rest.Within input ∧ c.offset ≤ m.rest.offset) ∧
        ∀ m, p.spanned.run c = some m →
          m.value.span = ⟨c.offset, m.rest.offset⟩ ∧ p.run c = some ⟨m.value.value, m.rest⟩) ∧
      (∀ {text : String} {c : Cursor Char}, c.Reachable text.toList →
        c.offset + c.remaining = text.utf8ByteSize ∧
          (⟨c.offset⟩ : String.Pos.Raw).IsValid text ∧
          (Span.mk c.offset text.utf8ByteSize).slice text = String.ofList c.rest) ∧
      ∀ {tokens : List Token} {c : Cursor Token}, c.Reachable tokens →
        c.offset + c.remaining = tokens.length ∧ c.rest = tokens.drop c.offset := by
  refine ⟨fun {α β _ p input c} hp hc ↦ ⟨?_, hc.within, fun m hm ↦ ?_, fun m hm ↦ ?_⟩,
    fun {text c} hc ↦ ⟨?_, hc.within.slice_eq⟩, fun {tokens c} hc ↦ ⟨?_, hc.within.rest_eq_drop⟩⟩
  · have hchain := p.chain_iterate c
    exact ⟨_, _, rfl, hchain, hchain.length_le⟩
  · have hwidth := (hp.reaches hm).choose_spec.2
    exact ⟨(hc.run hp hm).within, hwidth ▸ Nat.le_add_right _ _⟩
  · rw [run_spanned] at hm
    obtain ⟨m', hm', rfl⟩ := Option.map_eq_some_iff.mp hm
    exact ⟨rfl, hm'⟩
  · rw [hc.within.offset_add_remaining, Width.total_eq_utf8ByteSize, String.ofList_toList]
  · rw [hc.within.offset_add_remaining, Width.total_eq_length]

/-- Behind the first item of a text, a repetition with a look ahead reads a character of two bytes
and the one after it. -/
theorem run_within_two_bytes :
    let p : Parser Char (List (Spanned (Option Char))) :=
      (any *> (satisfy (· == 'b')).optional).spanned.many1
    let c := (Cursor.start "xäbä".toList).skip
    ∃ m, p.run c = some m ∧ m.value = [⟨some 'b', 1, 4⟩, ⟨none, 4, 6⟩] ∧
      m.rest.Within "xäbä".toList ∧ c.offset ≤ m.rest.offset ∧
      (⟨m.rest.offset⟩ : String.Pos.Raw).IsValid "xäbä" := by
  intro p c
  have hp : Built p := built_many1 (.spanned (built_seqRight built_any (.optional (.satisfy _))))
  have hc : c.Reachable "xäbä".toList := .next .start rfl
  have hread : (p.run c).map Match.value = some [⟨some 'b', 1, 4⟩, ⟨none, 4, 6⟩] := by
    decide +kernel
  obtain ⟨m, hm, hvalue⟩ := Option.map_eq_some_iff.mp hread
  obtain ⟨hwithin, hle⟩ := (run_within.1 hp hc).2.2.1 m hm
  exact ⟨m, hm, hvalue, hwithin, hle, (run_within.2.1 (hc.run hp hm)).2.1⟩

end Parser

end ServiceHost
