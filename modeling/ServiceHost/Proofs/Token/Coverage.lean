import Mathlib.Data.String.Basic
import ServiceHost.Proofs.Token.Lexeme
import ServiceHost.Proofs.Token.Lexer

/-!
# Nothing is lost

The scanner cuts a text into gaps of blanks and written tokens. The ranges of bytes that it reports
for the tokens are therefore ranges of characters, in order and apart from each other, and every
character outside of them is a blank. Two ranges touch only where the first one ends with a closing
quote.

## Main definitions

* `Span.Lossless` : ranges of a text that leave out nothing but blanks.
* `Token.Covers` : the cut of a text into gaps and written tokens.

## Main results

* `Token.scan_covers` : the scanner cuts every text so.
* `Token.Covers.lossless` : such a cut leaves out nothing but blanks.
* `Token.tokenize_lossless` : reading the tokens of a text loses nothing.
-/

namespace ServiceHost

open ServiceHost.Text

/-! ### Ranges of a text -/

/-- The text that a range of bytes covers. -/
def Span.slice (span : Span) (text : String) : String :=
  String.Pos.Raw.extract text ⟨span.start⟩ ⟨span.stop⟩

/-- The ranges are parts of the text, one behind the other, and leave out nothing but blanks. -/
structure Span.Lossless (text : String) (spans : List Span) : Prop where
  /-- No range is empty. -/
  start_lt_stop : ∀ span ∈ spans, span.start < span.stop
  /-- Every range lies within the text. -/
  stop_le : ∀ span ∈ spans, span.stop ≤ text.utf8ByteSize
  /-- Every range begins between characters. -/
  isValid_start : ∀ span ∈ spans, (⟨span.start⟩ : String.Pos.Raw).IsValid text
  /-- Every range ends between characters. -/
  isValid_stop : ∀ span ∈ spans, (⟨span.stop⟩ : String.Pos.Raw).IsValid text
  /-- The ranges are in order and have no byte in common. -/
  pairwise : spans.Pairwise fun a b ↦ a.start < b.start ∧ a.stop ≤ b.start
  /-- A character outside of the ranges is a blank. -/
  isBlank_get : ∀ (p : text.Pos) (hp : p ≠ text.endPos),
    (∀ span ∈ spans, ¬ (span.start ≤ p.offset.byteIdx ∧ p.offset.byteIdx < span.stop)) →
      isBlank (p.get hp)

/-- The width of characters is the size of the string that they form. -/
theorem Width.total_eq_utf8ByteSize (chars : List Char) :
    Width.total chars = (String.ofList chars).utf8ByteSize := by
  rw [String.utf8ByteSize_ofList]
  induction chars with
  | nil => rfl
  | cons c chars ih =>
    rw [String.utf8Len_cons, ← ih, Nat.add_comm]
    rfl

/-- The end of a beginning of a text is a position between characters. -/
theorem isValid_total (before after : List Char) :
    (⟨Width.total before⟩ : String.Pos.Raw).IsValid (String.ofList (before ++ after)) := by
  rw [String.Pos.Raw.isValid_iff_exists_append]
  refine ⟨String.ofList before, String.ofList after, String.ofList_append, ?_⟩
  rw [Width.total_eq_utf8ByteSize]
  rfl

theorem Span.slice_ofList (before covered after : List Char) :
    (Span.mk (Width.total before) (Width.total (before ++ covered))).slice
      (String.ofList (before ++ covered ++ after)) = String.ofList covered := by
  simp only [Span.slice, Width.total_eq_utf8ByteSize, String.utf8ByteSize_ofList,
    String.utf8Len_append]
  exact String.extract_of_valid before covered after

/-- A position before the end stands between the characters before it and its own character. -/
theorem exists_eq_append_get {text : String} (p : text.Pos) (hp : p ≠ text.endPos) :
    ∃ before after, text.toList = before ++ p.get hp :: after ∧
      p.offset.byteIdx = Width.total before := by
  obtain ⟨rest, hrest⟩ := p.splits.exists_eq_singleton_append hp
  have htext := p.splits.eq_append
  have hoffset := p.splits.offset_eq_rawEndPos
  rw [hrest] at htext
  refine ⟨(text.sliceTo p).copy.toList, rest.toList, ?_, ?_⟩
  · simpa using congrArg String.toList htext
  · rw [Width.total_eq_utf8ByteSize, String.ofList_toList, hoffset]
    rfl

namespace Token

/-! ### The cut into gaps and tokens -/

/-- The text at the offset consists of gaps of blanks and written tokens, which have the given
ranges. A written token begins with no blank, and what follows it does so only if it ends in
quotes. -/
inductive Covers (keys : List String) : Nat → List Char → List (Spanned Token) → Prop
  | blanks {offset : Nat} {chars : List Char} (h : ∀ c ∈ chars, isBlank c) :
      Covers keys offset chars []
  | token {offset : Nat} {gap written rest : List Char} {token : Token}
      {tokens : List (Spanned Token)} (hgap : ∀ c ∈ gap, isBlank c)
      (hwritten : closes written = false)
      (hend : closes rest ∨ EndsInQuotes keys token (String.ofList written))
      (hrest : Covers keys (offset + Width.total (gap ++ written)) rest tokens) :
      Covers keys offset (gap ++ written ++ rest)
        (⟨token, offset + Width.total gap, offset + Width.total (gap ++ written)⟩ :: tokens)

variable {keys : List String} {offset : Nat} {chars : List Char} {tokens : List (Spanned Token)}

theorem total_pos_of_not_closes (h : closes chars = false) : 0 < Width.total chars := by
  refine Nat.pos_of_ne_zero fun hzero ↦ ?_
  rw [Width.total_eq_zero.mp hzero] at h
  cases h

/-- A scanned token is a beginning of the text that takes at least one character. -/
theorem exists_written (keys : List String) (h : closes chars = false) :
    ∃ written, chars = written ++ (scanToken keys chars).2 ∧ closes written = false ∧
      (closes (scanToken keys chars).2 ∨
        EndsInQuotes keys (scanToken keys chars).1 (String.ofList written)) := by
  cases chars with
  | nil => cases h
  | cons first following =>
    obtain ⟨written, hwritten⟩ := scanToken_suffix keys h following
    have hchars : first :: following =
        first :: written ++ (scanToken keys (first :: following)).2 := by
      rw [List.cons_append, hwritten]
    refine ⟨first :: written, hchars, h, (closes_or_endsInQuotes keys _).imp_right ?_⟩
    rintro ⟨text, htext, hquotes⟩
    have htext : text.toList = first :: written :=
      List.append_cancel_right (htext.symm.trans hchars)
    rwa [← htext, String.ofList_toList]

/-- The scanner cuts a text into gaps and written tokens. -/
theorem scan_covers (keys : List String) (offset : Nat) (chars : List Char) :
    Covers keys offset chars (scan keys offset chars) := by
  cases h : chars.dropWhile isBlank with
  | nil =>
    rw [scan_of_blank h]
    exact .blanks (List.dropWhile_eq_nil_iff.mp h)
  | cons first following =>
    have hcloses : closes (first :: following) = false := not_of_dropWhile_eq_cons h
    obtain ⟨written, hchars, hwritten, hend⟩ := exists_written keys hcloses
    have hgap : ∀ c ∈ chars.takeWhile isBlank, isBlank c := fun c hc ↦ List.mem_takeWhile_imp hc
    have hrest := scan_covers keys (offset + Width.total (chars.takeWhile isBlank ++ written))
      (scanToken keys (first :: following)).2
    have hcut := Covers.token hgap hwritten hend hrest
    have htotal : Width.total (first :: following) -
        Width.total (scanToken keys (first :: following)).2 = Width.total written := by
      rw [congrArg Width.total hchars, Width.total_append, Nat.add_sub_cancel_right]
    rw [List.append_assoc, ← hchars, ← h, List.takeWhile_append_dropWhile] at hcut
    rw [scan_of_token h]
    dsimp only
    rw [htotal, Nat.add_assoc, ← Width.total_append, ← h]
    exact hcut
termination_by chars.length
decreasing_by exact length_scanToken_lt keys h

/-! ### What a cut leaves out -/

/-- Every token stands in the text with its range. -/
theorem Covers.exists_split (h : Covers keys offset chars tokens) :
    ∀ token ∈ tokens, ∃ before written after, chars = before ++ written ++ after ∧
      closes written = false ∧
      token.span = ⟨offset + Width.total before, offset + Width.total (before ++ written)⟩ := by
  induction h with
  | blanks => exact fun _ hmem ↦ absurd hmem List.not_mem_nil
  | @token offset gap written rest token tokens hgap hwritten hend hrest ih =>
    intro other hmem
    rcases List.mem_cons.mp hmem with rfl | hmem
    · exact ⟨gap, written, rest, rfl, hwritten, rfl⟩
    · obtain ⟨before, written', after, rfl, hwritten', hspan⟩ := ih other hmem
      refine ⟨gap ++ written ++ before, written', after, by simp, hwritten', ?_⟩
      rw [hspan]
      simp only [Width.total_append, Nat.add_assoc]

theorem Covers.pairwise (h : Covers keys offset chars tokens) :
    tokens.Pairwise fun a b ↦ a.span.start < b.span.start ∧ a.span.stop ≤ b.span.start := by
  induction h with
  | blanks => exact .nil
  | @token offset gap written rest token tokens hgap hwritten hend hrest ih =>
    refine List.pairwise_cons.mpr ⟨fun other hmem ↦ ?_, ih⟩
    obtain ⟨before, written', after, -, -, hspan⟩ := hrest.exists_split other hmem
    have hpos := total_pos_of_not_closes hwritten
    rw [hspan, Width.total_append]
    dsimp only
    omega

/-- In two lists put together an item stands in the first one or in the second one. -/
private theorem append_eq_append_cons {xs ys before after : List Char} {c : Char}
    (h : xs ++ ys = before ++ c :: after) :
    (∃ following, xs = before ++ c :: following) ∨
      ∃ leading, before = xs ++ leading ∧ ys = leading ++ c :: after := by
  obtain ⟨leading, hbefore, hys⟩ | ⟨following, hxs, hafter⟩ := List.append_eq_append_iff.mp h
  · exact .inr ⟨leading, hbefore, hys⟩
  · cases following with
    | nil => exact .inr ⟨[], by simpa using hxs.symm, by simpa using hafter.symm⟩
    | cons first following =>
      obtain ⟨rfl, -⟩ := List.cons.inj hafter
      exact .inl ⟨following, hxs⟩

/-- A character outside of the ranges is a blank. -/
theorem Covers.isBlank_of_outside (h : Covers keys offset chars tokens) {before after : List Char}
    {c : Char} (hchars : chars = before ++ c :: after)
    (houtside : ∀ token ∈ tokens, ¬ (token.span.start ≤ offset + Width.total before ∧
      offset + Width.total before < token.span.stop)) : isBlank c := by
  induction h generalizing before with
  | blanks hblank =>
    subst hchars
    exact hblank c (by simp)
  | @token offset gap written rest token tokens hgap hwritten hend hrest ih =>
    obtain ⟨hhead, htail⟩ := List.forall_mem_cons.mp houtside
    obtain ⟨following, hcut⟩ | ⟨leading, rfl, hcut⟩ := append_eq_append_cons hchars
    · obtain ⟨following', hcut'⟩ | ⟨leading, rfl, hcut'⟩ := append_eq_append_cons hcut
      · rw [hcut'] at hgap
        exact hgap c (by simp)
      · -- the character belongs to the written token, so it lies in the range
        have hpos := Width.width_pos c
        refine absurd ⟨?_, ?_⟩ hhead <;>
          simp only [hcut', Width.total_append, Width.total] <;> omega
    · refine ih hcut fun other hmem hin ↦ htail other hmem ?_
      rwa [Width.total_append (gap ++ written), ← Nat.add_assoc]

theorem Covers.length_le (h : Covers keys offset chars tokens) :
    tokens.length ≤ Width.total chars := by
  induction h with
  | blanks => exact Nat.zero_le _
  | @token offset gap written rest token tokens hgap hwritten hend hrest ih =>
    have hpos := total_pos_of_not_closes hwritten
    rw [List.length_cons, Width.total_append, Width.total_append]
    omega

/-- Every range of a cut of the whole text is the range of a part of it. -/
theorem Covers.exists_part {text : String} (h : Covers keys 0 text.toList tokens) :
    ∀ span ∈ tokens.map Spanned.span, ∃ before written after,
      text = String.ofList (before ++ written ++ after) ∧ closes written = false ∧
        span = ⟨Width.total before, Width.total (before ++ written)⟩ := by
  refine List.forall_mem_map.mpr fun token hmem ↦ ?_
  obtain ⟨before, written, after, hchars, hwritten, hspan⟩ := h.exists_split token hmem
  refine ⟨before, written, after, ?_, hwritten, ?_⟩
  · rw [← hchars, String.ofList_toList]
  · rw [hspan, Nat.zero_add, Nat.zero_add]

/-- The ranges of a cut leave out nothing but blanks. -/
theorem Covers.lossless {text : String} (h : Covers keys 0 text.toList tokens) :
    Span.Lossless text (tokens.map Spanned.span) where
  start_lt_stop span hmem := by
    obtain ⟨before, written, after, -, hwritten, rfl⟩ := h.exists_part span hmem
    have hpos := total_pos_of_not_closes hwritten
    simp only [Width.total_append]
    omega
  stop_le span hmem := by
    obtain ⟨before, written, after, rfl, -, rfl⟩ := h.exists_part span hmem
    rw [← Width.total_eq_utf8ByteSize, Width.total_append _ after]
    exact Nat.le_add_right _ _
  isValid_start span hmem := by
    obtain ⟨before, written, after, rfl, -, rfl⟩ := h.exists_part span hmem
    rw [List.append_assoc]
    exact isValid_total before (written ++ after)
  isValid_stop span hmem := by
    obtain ⟨before, written, after, rfl, -, rfl⟩ := h.exists_part span hmem
    exact isValid_total (before ++ written) after
  pairwise := List.pairwise_map.mpr h.pairwise
  isBlank_get p hp houtside := by
    obtain ⟨before, after, hchars, hoffset⟩ := exists_eq_append_get p hp
    refine h.isBlank_of_outside hchars fun token hmem ↦ ?_
    rw [Nat.zero_add, ← hoffset]
    exact houtside _ (List.mem_map_of_mem hmem)

/-! ### Ranges that touch -/

/-- Where a token begins at the end of the one before it, this one ends in quotes. -/
theorem Covers.isChain (h : Covers keys offset chars tokens) (before : List Char)
    (hbefore : Width.total before = offset) :
    tokens.IsChain fun a b ↦ a.span.stop = b.span.start →
      EndsInQuotes keys a.value (a.span.slice (String.ofList (before ++ chars))) := by
  induction h generalizing before with
  | blanks => exact .nil
  | @token offset gap written rest token tokens hgap hwritten hend hrest ih =>
    have hnext := ih (before ++ (gap ++ written)) (by rw [Width.total_append, hbefore])
    have hslice := Span.slice_ofList (before ++ gap) written rest
    simp only [List.append_assoc, Width.total_append, hbefore] at hslice hnext ⊢
    cases hrest with
    | blanks => exact .singleton _
    | @token _ gap' written' rest' token' tokens' hgap' hwritten' =>
      refine .cons_cons (fun htouch ↦ ?_) hnext
      have hempty : gap' = [] := Width.total_eq_zero.mp (by
        dsimp only at htouch
        rw [Width.total_append] at htouch
        omega)
      subst hempty
      rw [hslice]
      refine hend.resolve_left fun hcloses ↦ ?_
      rw [List.nil_append, closes_append hwritten'] at hcloses
      cases hcloses

/-- Reading the tokens of a text comes to an end and loses nothing, for any definition keys. Every
token moves on. The ranges of the tokens are not empty, lie within the text, begin and end between
characters, are in order and apart from each other, and leave out nothing but blanks. Two of them
touch only where the first one ends with the closing quote of its value. There are at most as many
tokens as bytes. -/
theorem tokenize_lossless (keys : List String) (text : String) :
    (∀ (c : Cursor Char) (m : Match Char (Spanned Token)),
        (Lexer.nextToken keys).run c = some m → m.rest.remaining < c.remaining) ∧
      Span.Lossless text ((tokenize keys text).map Spanned.span) ∧
      (tokenize keys text).IsChain (fun a b ↦ a.span.stop = b.span.start →
        EndsInQuotes keys a.value (a.span.slice text)) ∧
      (tokenize keys text).length ≤ text.utf8ByteSize := by
  have hcovers := scan_covers keys 0 text.toList
  rw [show tokenize keys text = scan keys 0 text.toList from
    Lexer.iterate_nextToken keys (Cursor.start text.toList)]
  refine ⟨fun c m h ↦ Lexer.remaining_lt_of_run_nextToken h, hcovers.lossless, ?_, ?_⟩
  · simpa using hcovers.isChain [] rfl
  · simpa [Width.total_eq_utf8ByteSize] using hcovers.length_le

-- the second range begins where the first one ends, and `ä` takes two bytes
example : tokenize [] "\"ä\"x" = [⟨.argument "ä", 0, 4⟩, ⟨.argument "x", 4, 5⟩] := by cbv

end Token

end ServiceHost
