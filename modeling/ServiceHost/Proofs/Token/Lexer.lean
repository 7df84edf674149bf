import ServiceHost.Proofs.Input.Reading
import ServiceHost.Proofs.Token.Scanner
import ServiceHost.Token.Lexer

/-!
# The lexer and the scanner

The lexer tries four forms at the start of a token, each a sequence of small parsers. None of them
looks at the offset, so each is a partial function of the text that follows, and together they
read the token that the rules of the scanner give. The repeated lexer then reads what the scanner
reads.

## Main results

* `Lexer.on_token` : the lexer reads the token that the rules give.
* `Lexer.iterate_nextToken` : the repeated lexer reads the tokens that the scanner reads.
* `Token.tokenize_eq_scan` : the lexer and the scanner agree on every text.
-/

namespace ServiceHost

namespace Lexer

open ServiceHost.Parser ServiceHost.Text ServiceHost.Token

/-! ### Parsers that do not look at the offset -/

theorem invariant_exactly (c : Char) : Invariant (exactly c) := .satisfy _

theorem invariant_quoted : Invariant quoted :=
  invariant_bind (invariant_exactly _) fun _ ↦ invariant_bind (.many (.satisfy _)) fun _ ↦
    invariant_bind (.optional (invariant_exactly _)) fun _ ↦ invariant_pure _

theorem invariant_key : Invariant key :=
  invariant_bind (.satisfy _) fun _ ↦ invariant_bind (.many (.satisfy _)) fun _ ↦ invariant_pure _

theorem invariant_value : Invariant value :=
  invariant_orElse invariant_quoted (invariant_map _ (invariant_many1 (.satisfy _)))

theorem invariant_inlineValue : Invariant inlineValue :=
  invariant_orElse invariant_quoted (invariant_map _ (.many (.satisfy _)))

theorem invariant_separateDefinition (keys : List String) :
    Invariant (separateDefinition keys) :=
  invariant_bind (invariant_exactly _) fun _ ↦ invariant_bind (.filter _ invariant_key) fun _ ↦
    invariant_bind (invariant_many1 (.satisfy _)) fun _ ↦ invariant_bind invariant_value fun _ ↦
      invariant_pure _

theorem invariant_inlineDefinition : Invariant inlineDefinition :=
  invariant_bind (invariant_exactly _) fun _ ↦ invariant_bind invariant_key fun _ ↦
    invariant_bind (invariant_exactly _) fun _ ↦ invariant_bind invariant_inlineValue fun _ ↦
      invariant_pure _

theorem invariant_switch : Invariant switch :=
  invariant_bind (invariant_exactly _) fun _ ↦
    invariant_bind (.optional (invariant_exactly _)) fun _ ↦ invariant_bind invariant_key fun _ ↦
      invariant_bind (.boundary _) fun _ ↦ invariant_pure _

theorem invariant_token (keys : List String) : Invariant (token keys) :=
  invariant_orElse (invariant_separateDefinition keys) <|
    invariant_orElse invariant_inlineDefinition <|
      invariant_orElse invariant_switch (invariant_map _ invariant_value)

/-! ### What each parser reads -/

theorem on_exactly (c : Char) (chars : List Char) :
    (exactly c).on chars = if chars.head? = some c then some (c, chars.drop 1) else none := by
  cases chars with
  | nil => simp [exactly]
  | cons first chars =>
    by_cases hfirst : first = c <;> simp [exactly, hfirst]

theorem on_quoted (chars : List Char) :
    quoted.on chars = if chars.head? = some '"' then some (splitValue chars) else none := by
  rw [on, quoted]
  simp only [view_bind (invariant_exactly _), view_bind (.many (.satisfy _)),
    view_bind (.optional (invariant_exactly _)), view_pure, Cursor.rest_start, Cursor.rest_seek,
    on_exactly, on_many_satisfy, on_optional, Option.bind_some]
  split_ifs with hquote
  · obtain ⟨chars, rfl⟩ := List.head?_eq_some_iff.mp hquote
    simp only [Option.bind_some, List.drop_one, List.tail_cons, splitValue_quote]
    -- the closing quote is where the run of other characters ends, if it does not reach the end
    cases hrest : chars.dropWhile (· != '"') with
    | nil => rfl
    | cons first rest =>
      obtain rfl : first = '"' := by simpa using not_of_dropWhile_eq_cons hrest
      rfl
  · rfl

theorem on_value (chars : List Char) :
    value.on chars = if closes chars then none else some (splitValue chars) := by
  rw [value, on_orElse, on_quoted, bare, on_map, on_many1_satisfy]
  by_cases hquote : chars.head? = some '"'
  · have hcloses : closes chars = false := by rw [closes, hquote]; rfl
    rw [if_pos hquote, hcloses]
    rfl
  · rw [splitValue_of_ne hquote, if_neg hquote]
    cases chars with
    | nil => rfl
    | cons first chars => by_cases hblank : isBlank first <;> simp [closes, hblank]

theorem on_inlineValue (chars : List Char) : inlineValue.on chars = some (splitValue chars) := by
  rw [inlineValue, on_orElse, on_quoted, on_map, on_many_satisfy]
  by_cases hquote : chars.head? = some '"'
  · rw [if_pos hquote, Option.some_or]
  · rw [splitValue_of_ne hquote, if_neg hquote]
    rfl

theorem on_key (chars : List Char) : key.on chars = splitKey? chars := by
  rw [on, key]
  simp only [view_bind (.satisfy _), view_bind (.many (.satisfy _)), view_pure,
    Cursor.rest_start, Cursor.rest_seek, on_many_satisfy, Option.bind_some]
  cases chars with
  | nil => rfl
  | cons first chars =>
    by_cases hstart : isKeyStart first
    · have hchar : isKeyChar first := by
        rw [isKeyStart, Bool.and_eq_true] at hstart
        exact hstart.1
      simp [splitKey?, isKey, hstart, hchar]
    · by_cases hchar : isKeyChar first <;> simp [splitKey?, isKey, hstart, hchar]

theorem on_separateDefinition (keys : List String) (chars : List Char) :
    (separateDefinition keys).on ('-' :: chars) = (splitKey? chars).bind fun (key, after) ↦
      if key ∈ keys ∧ after.head?.any isBlank ∧ after.dropWhile isBlank ≠ [] then
        some (scanValue (definition key) (after.dropWhile isBlank))
      else none := by
  rw [on, separateDefinition]
  simp only [view_bind (invariant_exactly _), view_bind (.filter _ invariant_key),
    view_bind (invariant_many1 (.satisfy _)), view_bind invariant_value, view_pure,
    Cursor.rest_start, Cursor.rest_seek, on_exactly, on_filter, on_key, on_many1_satisfy, on_value,
    List.head?_cons, if_true, Option.bind_some, List.drop_one, List.tail_cons]
  cases splitKey? chars with
  | none => rfl
  | some out =>
    obtain ⟨key, after⟩ := out
    by_cases hkey : key ∈ keys
    · by_cases hblank : after.head?.any isBlank
      · simp only [hkey, hblank, Option.filter_some, List.contains_iff_mem, if_true,
          Option.bind_some, true_and]
        cases hvalue : after.dropWhile isBlank with
        | nil => rfl
        | cons first value =>
          have hcloses : closes (first :: value) = false := not_of_dropWhile_eq_cons hvalue
          rw [hcloses]
          rfl
      · simp [hkey, hblank, Option.filter_some]
    · simp [hkey, Option.filter_some]

theorem on_inlineDefinition (chars : List Char) :
    inlineDefinition.on ('-' :: chars) = (splitKey? chars).bind fun (key, after) ↦
      if after.head? = some ':' then some (scanValue (definition key) (after.drop 1))
      else none := by
  rw [on, inlineDefinition]
  simp only [view_bind (invariant_exactly _), view_bind invariant_key,
    view_bind invariant_inlineValue, view_pure, Cursor.rest_start, Cursor.rest_seek, on_exactly,
    on_key, on_inlineValue, List.head?_cons, if_true, Option.bind_some, List.drop_one,
    List.tail_cons]
  cases splitKey? chars with
  | none => rfl
  | some out => by_cases hcolon : out.2.head? = some ':' <;> simp [hcolon, scanValue]

theorem on_switch (chars : List Char) :
    switch.on ('-' :: chars) =
      (splitKey? (if chars.head? = some '-' then chars.drop 1 else chars)).bind
        fun (key, after) ↦ if closes after then some (Token.switch key true, after) else none := by
  rw [on, switch]
  simp only [view_bind (invariant_exactly _), view_bind (.optional (invariant_exactly _)),
    view_bind invariant_key, view_bind (.boundary _), view_pure, Cursor.rest_start,
    Cursor.rest_seek, on_exactly, on_optional, on_key, on_boundary, List.head?_cons, if_true,
    Option.bind_some, List.drop_one, List.tail_cons]
  have hhyphen : ((Option.map (fun out : Char × List Char ↦ (some out.1, out.2))
      (if chars.head? = some '-' then some ('-', chars.tail) else none)).getD (none, chars)).2 =
        if chars.head? = some '-' then chars.tail else chars := by
    split_ifs <;> rfl
  rw [hhyphen]
  cases splitKey? (if chars.head? = some '-' then chars.tail else chars) with
  | none => rfl
  | some out => by_cases hcloses : closes out.2 <;> simp_all [closes]

theorem on_argument (chars : List Char) :
    argument.on chars = if closes chars then none else some (scanValue .argument chars) := by
  rw [argument, on_map, on_value]
  split_ifs <;> rfl

/-- No definition and no switch begins with another character than a hyphen. -/
theorem on_of_head_ne {chars : List Char} (h : chars.head? ≠ some '-') (keys : List String) :
    (separateDefinition keys).on chars = none ∧ inlineDefinition.on chars = none ∧
      switch.on chars = none := by
  refine ⟨?_, ?_, ?_⟩
  · rw [on, separateDefinition, view_bind (invariant_exactly _), Cursor.rest_start, on_exactly,
      if_neg h]
    rfl
  · rw [on, inlineDefinition, view_bind (invariant_exactly _), Cursor.rest_start, on_exactly,
      if_neg h]
    rfl
  · rw [on, switch, view_bind (invariant_exactly _), Cursor.rest_start, on_exactly, if_neg h]
    rfl

private theorem or_some_eq_getD {α : Type} (out : Option α) (other : α) :
    out.or (some other) = some (out.getD other) := by
  cases out <;> rfl

/-- After a key behind one hyphen the three forms of the lexer read what the rules give. -/
theorem or_eq_scanAfterKey? (keys : List String) (key : String) (after : List Char) :
    (if key ∈ keys ∧ after.head?.any isBlank ∧ after.dropWhile isBlank ≠ [] then
        some (scanValue (definition key) (after.dropWhile isBlank)) else none).or
      ((if after.head? = some ':' then some (scanValue (definition key) (after.drop 1))
          else none).or
        (if closes after then some (Token.switch key true, after) else none)) =
      scanAfterKey? keys key after := by
  match after with
  | [] => simp [scanAfterKey?, closes]
  | first :: after =>
    by_cases hcolon : first = ':'
    · subst hcolon
      simp [scanAfterKey?, show isBlank ':' = false from rfl]
    · have hhead : (first :: after).head? ≠ some ':' := by simpa using hcolon
      by_cases hblank : isBlank first
      · have hcloses : closes (first :: after) = true := hblank
        rw [scanAfterKey?, if_neg hhead, if_neg hhead, hcloses]
        by_cases hkey : key ∈ keys ∧ (first :: after).dropWhile isBlank ≠ []
        · rw [if_pos ⟨hkey.1, hblank, hkey.2⟩, if_pos hkey]
          rfl
        · rw [if_neg fun h ↦ hkey ⟨h.1, h.2.2⟩, if_neg hkey]
          rfl
      · simp [scanAfterKey?, closes, hcolon, hblank]

/-- The lexer reads the token that the rules give, at every text that begins with no blank. -/
theorem on_token (keys : List String) {chars : List Char} (h : closes chars = false) :
    (token keys).on chars = some (scanToken keys chars) := by
  have hrules : ((separateDefinition keys).on chars).or
      ((inlineDefinition.on chars).or (switch.on chars)) =
        (scanShort? keys chars).or (scanLong? chars) := by
    by_cases hhyphen : chars.head? = some '-'
    · obtain ⟨chars, rfl⟩ := List.head?_eq_some_iff.mp hhyphen
      rw [on_separateDefinition, on_inlineDefinition, on_switch, scanShort?]
      cases hkey : splitKey? chars with
      | none =>
        -- without a key after one hyphen there may be one after two
        by_cases hhead : chars.head? = some '-'
        · obtain ⟨chars, rfl⟩ := List.head?_eq_some_iff.mp hhead
          rfl
        · rw [if_neg hhead, hkey, scanLong?_of_second_ne hhead]
          rfl
      | some out =>
        obtain ⟨key, after⟩ := out
        have hhead : chars.head? ≠ some '-' := by
          cases chars with
          | nil => exact nofun
          | cons first chars =>
            rintro ⟨⟩
            cases hkey
        rw [if_neg hhead, hkey, scanLong?_of_second_ne hhead, Option.or_none]
        exact or_eq_scanAfterKey? keys key after
    · obtain ⟨hseparate, hinline, hswitch⟩ := on_of_head_ne hhyphen keys
      rw [hseparate, hinline, hswitch, scanShort?_of_head_ne hhyphen, scanLong?_of_head_ne hhyphen]
      rfl
  rw [token, on_orElse, on_orElse, on_orElse, on_argument, h, if_neg Bool.false_ne_true, scanToken,
    ← or_some_eq_getD, ← hrules, Option.or_assoc, Option.or_assoc]

/-! ### The whole text -/

/-- After blanks the lexer reads nothing at the end of the text, and otherwise the token that the
rules give. -/
theorem run_nextToken_of_blank (keys : List String) {c : Cursor Char}
    (h : c.rest.dropWhile isBlank = []) : (nextToken keys).run c = none := by
  have hblanks := (Invariant.many (.satisfy isBlank)).run_eq c
  rw [on_many_satisfy, Option.map_some, h] at hblanks
  rw [nextToken, run_bind, hblanks]
  rfl

theorem run_nextToken_of_token (keys : List String) {c : Cursor Char} {first : Char}
    {following : List Char} (h : c.rest.dropWhile isBlank = first :: following) :
    (nextToken keys).run c =
      let d := c.seek (first :: following)
      let out := scanToken keys (first :: following)
      some ⟨⟨out.1, d.offset, (d.seek out.2).offset⟩, d.seek out.2⟩ := by
  have hblanks := (Invariant.many (.satisfy isBlank)).run_eq c
  rw [on_many_satisfy, Option.map_some, h] at hblanks
  have hcloses : closes (first :: following) = false := not_of_dropWhile_eq_cons h
  have htoken := (invariant_token keys).run_eq (c.seek (first :: following))
  rw [Cursor.rest_seek, on_token keys hcloses, Option.map_some] at htoken
  rw [nextToken, run_bind, hblanks, Option.bind_some, run_spanned, htoken]
  rfl

/-- Behind a token less of the text remains than before the blanks that precede it. -/
theorem total_scanToken_lt (keys : List String) {chars following : List Char} {first : Char}
    (h : chars.dropWhile isBlank = first :: following) :
    Width.total (scanToken keys (first :: following)).2 < Width.total chars := by
  have hle := Width.total_le_of_suffix
    (scanToken_suffix keys (not_of_dropWhile_eq_cons h) following)
  have hpos := Width.width_pos first
  have hsum := Width.total_append (chars.takeWhile isBlank) (chars.dropWhile isBlank)
  rw [List.takeWhile_append_dropWhile, h, Width.total] at hsum
  omega

/-- Every token moves on in the text, so that the repeated lexer never stalls. -/
theorem remaining_lt_of_run_nextToken {keys : List String} {c : Cursor Char}
    {m : Match Char (Spanned Token)} (h : (nextToken keys).run c = some m) :
    m.rest.remaining < c.remaining := by
  cases hrest : c.rest.dropWhile isBlank with
  | nil =>
    rw [run_nextToken_of_blank keys hrest] at h
    cases h
  | cons first following =>
    rw [run_nextToken_of_token keys hrest] at h
    cases h
    rw [Cursor.remaining_eq, Cursor.remaining_eq]
    exact total_scanToken_lt keys hrest

/-- The repeated lexer reads the tokens that the scanner reads. -/
theorem iterate_nextToken (keys : List String) (c : Cursor Char) :
    ((nextToken keys).iterate c).value = scan keys c.offset c.rest := by
  cases hrest : c.rest.dropWhile isBlank with
  | nil => rw [iterate_of_none (run_nextToken_of_blank keys hrest), scan_of_blank hrest]
  | cons first following =>
    have hrun := run_nextToken_of_token keys hrest
    have hsuffix := scanToken_suffix keys (not_of_dropWhile_eq_cons hrest) following
    have hblanks : c.rest.takeWhile isBlank ++ first :: following = c.rest := by
      rw [← hrest, List.takeWhile_append_dropWhile]
    have hstart : (c.seek (first :: following)).offset =
        c.offset + Width.total (c.rest.takeWhile isBlank) := by
      rw [Cursor.offset_seek ⟨_, hblanks⟩, ← hblanks, Width.total_append, Nat.add_sub_cancel,
        hblanks]
    have hstop := Cursor.offset_seek (c := c.seek (first :: following))
      (hsuffix.trans (List.suffix_cons first following))
    rw [iterate_of_lt hrun (remaining_lt_of_run_nextToken hrun), scan_of_token hrest,
      iterate_nextToken keys, hstop, hstart]
    rfl
termination_by c.rest.length
decreasing_by exact length_scanToken_lt keys hrest

end Lexer

/-- The lexer reads from every text the tokens and ranges of bytes that the scanner reads, for any
definition keys. -/
theorem Token.tokenize_eq_scan (keys : List String) (text : String) :
    Token.tokenize keys text = Token.scan keys 0 text.toList :=
  Lexer.iterate_nextToken keys (Cursor.start text.toList)

theorem Token.read_eq_scanned (keys : List String) (text : String) :
    Token.read keys text = Token.scanned keys text.toList := by
  rw [read, tokenize, Lexer.iterate_nextToken, map_value_scan]
  rfl

end ServiceHost
