import ServiceHost.Proofs.Token.Coverage

/-!
# Reading texts put together

Two texts with blanks between them are read one after the other, unless the last token of the first
text can go on beyond the blanks. There are two such tokens: a value behind a quote that is not
closed, which takes everything up to the next quote, and a definition key behind one hyphen, which
takes the next value. No other token looks beyond the blank behind it.

## Main definitions

* `Token.EndsUnclosed`, `Token.AwaitsValue` : the two tokens that can go on.
* `Token.IsClosed` : a text whose last token cannot go on.
* `Text.IsGap` : blanks between two texts.

## Main results

* `Token.scanToken_append` : a token that cannot go on is scanned alike before any blank.
* `Token.EndsClosed.scan_append` : the texts are scanned one after the other.
* `Token.tokenize_compositional` : the tokens and ranges of two texts put together.
-/

namespace ServiceHost

/-- The value with its range moved by the given number of bytes. -/
def Spanned.shift {β : Type} (distance : Nat) (spanned : Spanned β) : Spanned β :=
  ⟨spanned.value, distance + spanned.span.start, distance + spanned.span.stop⟩

/-- One or more blanks, and nothing else. -/
def Text.IsGap (text : String) : Prop := text ≠ "" ∧ ∀ c ∈ text.toList, isBlank c

namespace Token

open ServiceHost.Text

/-! ### Tokens that can go on -/

/-- The token is written as a lead and a quote that is not closed, before its value. -/
def EndsUnclosed (keys : List String) (token : Token) (written : String) : Prop :=
  ∃ make lead value, Lead keys make lead ∧ '"' ∉ value.toList ∧ token = make value ∧
    written = String.ofList lead ++ "\"" ++ value

/-- The token is a switch that is written with one hyphen, and its key is a definition key. -/
def AwaitsValue (keys : List String) (token : Token) (written : String) : Prop :=
  ∃ key ∈ keys, token = switch key true ∧ written = "-" ++ key

/-- The last token of the text, if there is one, has neither an unclosed quote nor a definition
key that takes a value. -/
def IsClosed (keys : List String) (text : String) : Prop :=
  ∀ last ∈ (tokenize keys text).getLast?, ¬ EndsUnclosed keys last.value (last.span.slice text) ∧
    ¬ AwaitsValue keys last.value (last.span.slice text)

/-- The text begins with a quote that is not closed. -/
def IsUnclosed (chars : List Char) : Prop := ∃ value, '"' ∉ value ∧ chars = '"' :: value

/-- The token at the beginning of the text could go on behind the text. -/
inductive Grows (keys : List String) : List Char → Prop
  /-- Its value stands behind a quote that is not closed. -/
  | unclosed {make : String → Token} {lead chars : List Char} (hlead : Lead keys make lead)
      (hchars : IsUnclosed chars) : Grows keys (lead ++ chars)
  /-- It is a definition key before nothing but blanks. -/
  | awaits {key : String} {gap : List Char} (hkey : isKey key.toList) (hmem : key ∈ keys)
      (hgap : ∀ c ∈ gap, isBlank c) : Grows keys ('-' :: (key.toList ++ gap))

variable {keys : List String} {key : String} {chars after : List Char} {offset : Nat}

/-- A lead with a key is scanned as such before any value. -/
theorem scanToken_lead_of_ne_nil {make : String → Token} {lead : List Char}
    (hlead : Lead keys make lead) (hne : lead ≠ []) (hchars : closes chars = false) :
    scanToken keys (lead ++ chars) = scanValue make chars := by
  cases hlead with
  | argument => exact absurd rfl hne
  | inline hkey => simpa using scanToken_inline hkey chars
  | @separate key gap hkey hmem hgap hblank =>
    have hcloses : closes (gap ++ chars) := by
      cases gap with
      | nil => exact absurd rfl hgap
      | cons first gap => exact hblank first List.mem_cons_self
    have hvalue : (gap ++ chars).dropWhile isBlank = chars := by
      rw [List.dropWhile_append_of_pos hblank, dropWhile_of_not_closes hchars]
    have hnonempty : chars ≠ [] := by
      rintro rfl
      cases hchars
    have hscan := scanToken_separate hkey hmem hcloses (by rwa [hvalue])
    rw [hvalue] at hscan
    simpa using hscan

/-- A lead before a quote is scanned as such. -/
theorem scanToken_lead {make : String → Token} {lead : List Char} (hlead : Lead keys make lead)
    (chars : List Char) :
    scanToken keys (lead ++ '"' :: chars) = scanValue make ('"' :: chars) := by
  by_cases hne : lead = []
  · subst hne
    cases hlead
    exact scanToken_of_head_ne (by simp)
  · exact scanToken_lead_of_ne_nil hlead hne rfl

/-- A token that could go on takes everything but blanks. -/
theorem Grows.exists_written (h : Grows keys chars) :
    ∃ (written : String) (gap : List Char) (token : Token), chars = written.toList ++ gap ∧
      (∀ c ∈ gap, isBlank c) ∧ scanToken keys chars = (token, gap) ∧
      (EndsUnclosed keys token written ∨ AwaitsValue keys token written) := by
  cases h with
  | @unclosed make lead _ hlead hchars =>
    obtain ⟨value, hquote, rfl⟩ := hchars
    have hvalue : scanValue make ('"' :: value) = (make (String.ofList value), []) := by
      have hall : ∀ c ∈ value, (c != '"') = true := fun c hc ↦ by
        rw [bne_iff_ne]
        rintro rfl
        exact hquote hc
      rw [scanValue, splitValue_quote, List.takeWhile_eq_self_iff.mpr hall,
        List.dropWhile_eq_nil_iff.mpr hall]
      rfl
    refine ⟨String.ofList lead ++ "\"" ++ String.ofList value, [], make (String.ofList value), ?_,
      fun _ hc ↦ absurd hc List.not_mem_nil, (scanToken_lead hlead value).trans hvalue,
      .inl ⟨make, lead, _, hlead, by rwa [String.toList_ofList], rfl, rfl⟩⟩
    simp
  | @awaits key gap hkey hmem hgap =>
    have hempty : gap.dropWhile isBlank = [] := List.dropWhile_eq_nil_iff.mpr hgap
    have hcloses : closes gap := by
      cases gap with
      | nil => rfl
      | cons first gap => exact hgap first List.mem_cons_self
    exact ⟨"-" ++ key, gap, switch key true, by simp, hgap,
      scanToken_short hkey hcloses (.inr hempty), .inr ⟨key, hmem, rfl, rfl⟩⟩

/-! ### One token before a blank -/

/-- The text after a token goes on with the given characters. -/
abbrev extend (after : List Char) {β : Type} : β × List Char → β × List Char :=
  Prod.map id (· ++ after)

/-- A value whose quote is closed ends alike before any blank. -/
theorem splitValue_append (hafter : closes after) (h : ¬ IsUnclosed chars) :
    splitValue (chars ++ after) = extend after (splitValue chars) := by
  by_cases hquote : chars.head? = some '"'
  · obtain ⟨chars, rfl⟩ := List.head?_eq_some_iff.mp hquote
    have hmem : '"' ∈ chars := by
      by_contra hmem
      exact h ⟨chars, hmem, rfl⟩
    obtain ⟨value, rest, rfl, hvalue⟩ := List.eq_append_cons_of_mem hmem
    have hsplit : ∀ rest, splitValue ('"' :: (value ++ '"' :: rest)) =
        (String.ofList value, rest) := fun rest ↦ by
      have hquoted : '"' ∉ (String.ofList value).toList := by rwa [String.toList_ofList]
      simpa [inQuotes] using splitValue_inQuotes hquoted rest
    rw [hsplit, List.cons_append, List.append_assoc, List.cons_append, hsplit]
    rfl
  · have hclose : ∀ c, isBlank c → (!isBlank c) = false := fun c hc ↦ by rw [hc]; rfl
    rw [splitValue_of_ne hquote, splitValue_of_ne (head?_append_ne hafter hquote rfl),
      takeWhile_append_of_closes hclose hafter, dropWhile_append_of_closes hclose hafter]
    rfl

theorem scanValue_append {make : String → Token} (hafter : closes after)
    (h : ¬ IsUnclosed chars) :
    scanValue make (chars ++ after) = extend after (scanValue make chars) := by
  rw [scanValue, splitValue_append hafter h]
  rfl

theorem closes_append_of_closes (h : closes chars) (hafter : closes after) :
    closes (chars ++ after) := by
  cases chars with
  | nil => exact hafter
  | cons first chars => exact h

/-- What follows a key is scanned alike before any blank, if neither the key nor a value behind it
can go on. -/
theorem scanAfterKey?_append {rest : List Char} (hafter : closes after)
    (hcolon : ∀ value, rest = ':' :: value → ¬ IsUnclosed value)
    (hgap : key ∈ keys → closes rest → rest.dropWhile isBlank ≠ [] ∧
      ¬ IsUnclosed (rest.dropWhile isBlank)) :
    scanAfterKey? keys key (rest ++ after) = (scanAfterKey? keys key rest).map (extend after) := by
  by_cases hhead : rest.head? = some ':'
  · obtain ⟨value, rfl⟩ := List.head?_eq_some_iff.mp hhead
    exact congrArg some (scanValue_append hafter (hcolon value rfl))
  · by_cases hcloses : closes rest
    · rw [scanAfterKey?_of_closes hcloses,
        scanAfterKey?_of_closes (closes_append_of_closes hcloses hafter)]
      by_cases hmem : key ∈ keys
      · obtain ⟨hvalue, hclosed⟩ := hgap hmem hcloses
        have hdrop : (rest ++ after).dropWhile isBlank = rest.dropWhile isBlank ++ after := by
          rw [List.dropWhile_append, if_neg (by simpa using hvalue)]
        rw [hdrop, if_pos ⟨hmem, by simp [hvalue]⟩, if_pos ⟨hmem, hvalue⟩,
          scanValue_append hafter hclosed]
        rfl
      · rw [if_neg fun h ↦ hmem h.1, if_neg fun h ↦ hmem h.1]
        rfl
    · rw [Bool.not_eq_true] at hcloses
      rw [scanAfterKey?_of_not_closes hhead hcloses,
        scanAfterKey?_of_not_closes (head?_append_ne hafter hhead rfl) (closes_append hcloses _)]
      rfl

theorem scanShort?_append (hafter : closes after) (h : ¬ Grows keys chars) :
    scanShort? keys (chars ++ after) = (scanShort? keys chars).map (extend after) := by
  by_cases hhead : chars.head? = some '-'
  · obtain ⟨chars, rfl⟩ := List.head?_eq_some_iff.mp hhead
    have hsplit := splitKey?_append hafter chars
    rw [List.cons_append]
    cases hkey : splitKey? chars with
    | none =>
      rw [hkey] at hsplit
      rw [scanShort?_of_no_key hkey, scanShort?_of_no_key hsplit]
      rfl
    | some out =>
      obtain ⟨key, rest⟩ := out
      rw [hkey] at hsplit
      rw [scanShort?_of_key hkey, scanShort?_of_key hsplit]
      obtain ⟨hname, rfl, -⟩ := splitKey?_eq_some.mp hkey
      refine scanAfterKey?_append hafter ?_ fun hmem hcloses ↦ ⟨fun hempty ↦ ?_, fun hopen ↦ ?_⟩
      · rintro value rfl hopen
        exact h (by simpa using Grows.unclosed (.inline hname) hopen)
      · exact h (.awaits hname hmem (List.dropWhile_eq_nil_iff.mp hempty))
      · have hne : rest.takeWhile isBlank ≠ [] := takeWhile_ne_nil_of_closes hcloses fun hnil ↦ by
          obtain ⟨value, -, hvalue⟩ := hopen
          rw [hnil] at hvalue
          cases hvalue
        have hgrows := Grows.unclosed
          (.separate hname hmem hne fun c hc ↦ List.mem_takeWhile_imp hc) hopen
        rw [List.cons_append, List.append_assoc, List.takeWhile_append_dropWhile] at hgrows
        exact h hgrows
  · rw [scanShort?_of_head_ne hhead, scanShort?_of_head_ne (head?_append_ne hafter hhead rfl)]
    rfl

theorem scanLong?_append (hafter : closes after) (chars : List Char) :
    scanLong? (chars ++ after) = (scanLong? chars).map (extend after) := by
  by_cases hhead : chars.head? = some '-'
  · obtain ⟨chars, rfl⟩ := List.head?_eq_some_iff.mp hhead
    by_cases hsecond : chars.head? = some '-'
    · obtain ⟨chars, rfl⟩ := List.head?_eq_some_iff.mp hsecond
      have hsplit := splitKey?_append hafter chars
      rw [List.cons_append, List.cons_append]
      cases hkey : splitKey? chars with
      | none =>
        rw [hkey] at hsplit
        rw [scanLong?_of_no_key hkey, scanLong?_of_no_key hsplit]
        rfl
      | some out =>
        rw [hkey] at hsplit
        rw [scanLong?_of_key hkey, scanLong?_of_key hsplit]
        by_cases hcloses : closes out.2
        · rw [if_pos hcloses, if_pos (closes_append_of_closes hcloses hafter)]
          rfl
        · have hopen : ¬ closes (out.2 ++ after) :=
            ne_true_of_eq_false (closes_append (eq_false_of_ne_true hcloses) after)
          rw [if_neg hcloses, if_neg hopen]
          rfl
    · rw [List.cons_append, scanLong?_of_second_ne hsecond,
        scanLong?_of_second_ne (head?_append_ne hafter hsecond rfl)]
      rfl
  · rw [scanLong?_of_head_ne hhead, scanLong?_of_head_ne (head?_append_ne hafter hhead rfl)]
    rfl

/-- A token that cannot go on is scanned alike before any blank. -/
theorem scanToken_append (hafter : closes after) (h : ¬ Grows keys chars) :
    scanToken keys (chars ++ after) = extend after (scanToken keys chars) := by
  have hvalue : ¬ IsUnclosed chars := fun hopen ↦ h (.unclosed .argument hopen)
  rw [scanToken, scanShort?_append hafter h, scanLong?_append hafter,
    scanValue_append hafter hvalue, ← Option.map_or, Option.getD_map]
  rfl

/-! ### Gaps and tokens -/

/-- Blanks before a text move its tokens. -/
theorem scan_gap_append {gap : List Char} (hgap : ∀ c ∈ gap, isBlank c) (chars : List Char) :
    scan keys offset (gap ++ chars) = scan keys (offset + Width.total gap) chars := by
  have hdrop : (gap ++ chars).dropWhile isBlank = chars.dropWhile isBlank :=
    List.dropWhile_append_of_pos hgap
  cases h : chars.dropWhile isBlank with
  | nil => rw [scan_of_blank h, scan_of_blank (hdrop.trans h)]
  | cons first following =>
    have htake : (gap ++ chars).takeWhile isBlank = gap ++ chars.takeWhile isBlank :=
      List.takeWhile_append_of_pos hgap
    rw [scan_of_token h, scan_of_token (hdrop.trans h), htake]
    simp only [Width.total_append, Nat.add_assoc]

/-- Behind blanks the scanner reads the token that stands there and goes on after it. -/
theorem scan_token_append {token : Token} {written rest : List Char}
    (hwritten : closes written = false)
    (hscan : scanToken keys (written ++ rest) = (token, rest)) :
    scan keys offset (written ++ rest) = ⟨token, offset, offset + Width.total written⟩ ::
      scan keys (offset + Width.total written) rest := by
  have hskip := dropWhile_of_not_closes (closes_append hwritten rest)
  cases written with
  | nil => cases hwritten
  | cons first written =>
    have hfirst : isBlank first = false := hwritten
    have hwidth : Width.total (first :: (written ++ rest)) - Width.total rest =
        Width.total (first :: written) := by
      rw [← List.cons_append, Width.total_append, Nat.add_sub_cancel_right]
    rw [List.cons_append] at hskip hscan ⊢
    rw [scan_of_token hskip, hscan, List.takeWhile_cons_of_neg (by simp [hfirst])]
    dsimp only
    rw [hwidth]
    rfl

/-- A text is blank, or it is a gap, a written token and what the scanner leaves. -/
theorem blank_or_exists_token (keys : List String) (chars : List Char) :
    (∀ c ∈ chars, isBlank c) ∨ ∃ (gap written rest : List Char) (token : Token),
      chars = gap ++ (written ++ rest) ∧ (∀ c ∈ gap, isBlank c) ∧ closes written = false ∧
        scanToken keys (written ++ rest) = (token, rest) ∧ rest.length < chars.length := by
  cases h : chars.dropWhile isBlank with
  | nil => exact .inl (List.dropWhile_eq_nil_iff.mp h)
  | cons first following =>
    have hcloses : closes (first :: following) = false := not_of_dropWhile_eq_cons h
    obtain ⟨written, hbody, hwritten, -⟩ := exists_written keys hcloses
    have hchars := List.takeWhile_append_dropWhile (p := isBlank) (l := chars)
    refine .inr ⟨chars.takeWhile isBlank, written, _, (scanToken keys (first :: following)).1,
      ?_, fun c hc ↦ List.mem_takeWhile_imp hc, hwritten, ?_, length_scanToken_lt keys h⟩
    · rw [← hbody, ← h, hchars]
    · rw [← hbody]

/-- The tokens of a text move with the offset at which it stands. -/
theorem scan_add (keys : List String) (distance offset : Nat) (chars : List Char) :
    scan keys (distance + offset) chars = (scan keys offset chars).map (.shift distance) := by
  obtain hblank | ⟨gap, written, rest, token, rfl, hgap, hwritten, hscan, hlength⟩ :=
    blank_or_exists_token keys chars
  · have hempty := List.dropWhile_eq_nil_iff.mpr hblank
    rw [scan_of_blank hempty, scan_of_blank hempty, List.map_nil]
  · rw [scan_gap_append hgap, scan_gap_append hgap, scan_token_append hwritten hscan,
      scan_token_append hwritten hscan, Nat.add_assoc, Nat.add_assoc, scan_add, List.map_cons]
    rfl
termination_by chars.length

/-! ### Texts put together -/

/-- No token of the text can go on behind the text. -/
inductive EndsClosed (keys : List String) : List Char → Prop
  /-- There is no token. -/
  | blanks {chars : List Char} (hblank : ∀ c ∈ chars, isBlank c) : EndsClosed keys chars
  /-- The first token cannot go on, and neither can those behind it. -/
  | token {gap written rest : List Char} {token : Token} (hgap : ∀ c ∈ gap, isBlank c)
      (hwritten : closes written = false)
      (hscan : scanToken keys (written ++ rest) = (token, rest))
      (hgrows : ¬ Grows keys (written ++ rest)) (hrest : EndsClosed keys rest) :
      EndsClosed keys (gap ++ (written ++ rest))

/-- What follows a text whose tokens cannot go on is scanned behind it. -/
theorem EndsClosed.scan_append (h : EndsClosed keys chars) (hafter : closes after)
    (offset : Nat) : scan keys offset (chars ++ after) =
      scan keys offset chars ++ scan keys (offset + Width.total chars) after := by
  induction h generalizing offset with
  | blanks hblank =>
    rw [scan_gap_append hblank, scan_of_blank (List.dropWhile_eq_nil_iff.mpr hblank),
      List.nil_append]
  | @token gap written rest token hgap hwritten hscan hgrows hrest ih =>
    have hscan' : scanToken keys (written ++ (rest ++ after)) = (token, rest ++ after) := by
      rw [← List.append_assoc, scanToken_append hafter hgrows, hscan]
      rfl
    rw [List.append_assoc, scan_gap_append hgap, List.append_assoc,
      scan_token_append hwritten hscan', scan_gap_append hgap, scan_token_append hwritten hscan,
      List.cons_append, ih]
    simp only [Width.total_append, Nat.add_assoc]

/-- Only the last token of a text can go on, since a token that does takes everything but blanks. -/
theorem endsClosed_of_last (before chars : List Char)
    (hlast : ∀ last ∈ (scan keys (Width.total before) chars).getLast?,
      ¬ EndsUnclosed keys last.value (last.span.slice (String.ofList (before ++ chars))) ∧
        ¬ AwaitsValue keys last.value (last.span.slice (String.ofList (before ++ chars)))) :
    EndsClosed keys chars := by
  obtain hblank | ⟨gap, written, rest, token, rfl, hgap, hwritten, hscan, hlength⟩ :=
    blank_or_exists_token keys chars
  · exact .blanks hblank
  · have hstep : scan keys (Width.total before) (gap ++ (written ++ rest)) =
        ⟨token, Width.total (before ++ gap), Width.total (before ++ gap ++ written)⟩ ::
          scan keys (Width.total (before ++ gap ++ written)) rest := by
      rw [scan_gap_append hgap, scan_token_append hwritten hscan, Width.total_append _ written,
        Width.total_append]
    have hparts : before ++ (gap ++ (written ++ rest)) = before ++ gap ++ written ++ rest := by simp
    rw [hstep, hparts] at hlast
    refine .token hgap hwritten hscan (fun hgrows ↦ ?_)
      (endsClosed_of_last (before ++ gap ++ written) rest fun last hmem ↦ hlast last ?_)
    · obtain ⟨written', gap', token', hchars, hblank, hscan', hopen⟩ := hgrows.exists_written
      obtain ⟨rfl, rfl⟩ := Prod.mk.inj (hscan.symm.trans hscan')
      obtain rfl : written = written'.toList := List.append_cancel_right hchars
      rw [scan_of_blank (List.dropWhile_eq_nil_iff.mpr hblank)] at hlast
      have hclosed := hlast _ rfl
      rw [List.getLast_singleton, Span.slice_ofList, String.ofList_toList] at hclosed
      exact hopen.elim hclosed.1 hclosed.2
    · rw [List.getLast?_cons, hmem]
      rfl
termination_by chars.length

/-- The scanner reads the tokens of the lexer. -/
theorem EndsClosed.of_isClosed {text : String} (h : IsClosed keys text) :
    EndsClosed keys text.toList := by
  refine endsClosed_of_last [] text.toList ?_
  rw [List.nil_append, String.ofList_toList]
  rwa [IsClosed, tokenize, Lexer.iterate_nextToken] at h

theorem closes_of_isGap {gap : String} (h : IsGap gap) (chars : List Char) :
    closes (gap.toList ++ chars) := by
  obtain ⟨hne, hblank⟩ := h
  cases hgap : gap.toList with
  | nil => exact absurd (String.toList_eq_nil_iff.mp hgap) hne
  | cons first rest => exact hblank first (by simp [hgap])

/-- The tokens of two texts with blanks between them, if the first text is closed. -/
theorem tokenize_append_gap {before gap after : String} (hclosed : IsClosed keys before)
    (hgap : IsGap gap) :
    tokenize keys (before ++ gap ++ after) = tokenize keys before ++
      (tokenize keys after).map (.shift (before ++ gap).utf8ByteSize) := by
  have hscan : ∀ text : String, tokenize keys text = scan keys 0 text.toList := fun text ↦
    Lexer.iterate_nextToken keys (Cursor.start text.toList)
  have hwidth : Width.total before.toList + Width.total gap.toList =
      (before ++ gap).utf8ByteSize := by
    rw [← Width.total_append, ← String.toList_append, Width.total_eq_utf8ByteSize,
      String.ofList_toList]
  rw [hscan, hscan, hscan, String.toList_append, String.toList_append, List.append_assoc,
    (EndsClosed.of_isClosed hclosed).scan_append (closes_of_isGap hgap _), Nat.zero_add,
    scan_gap_append hgap.2, hwidth, ← scan_add, Nat.add_zero]

theorem read_append_gap {before gap after : String} (hclosed : IsClosed keys before)
    (hgap : IsGap gap) :
    read keys (before ++ gap ++ after) = read keys before ++ read keys after := by
  rw [read, tokenize_append_gap hclosed hgap, List.map_append, List.map_map]
  rfl

/-- Blanks before a text change none of its tokens. -/
theorem read_gap_append {gap after : String} (hblank : ∀ c ∈ gap.toList, isBlank c) :
    read keys (gap ++ after) = read keys after := by
  rw [read_eq_scanned, read_eq_scanned, String.toList_append, scanned, scan_gap_append hblank,
    map_value_scan]

/-- Two texts with blanks between them are read one after the other, under any definition keys, if
the last token of the first text has neither an unclosed quote nor a definition key that takes a
value. The ranges of the second text are moved by the bytes before it. Which blanks stand
between the texts, and whether blanks stand before a text, makes no difference to the tokens. -/
theorem tokenize_compositional {before gap after : String} (hclosed : IsClosed keys before)
    (hgap : IsGap gap) :
    tokenize keys (before ++ gap ++ after) = tokenize keys before ++
        (tokenize keys after).map (.shift (before ++ gap).utf8ByteSize) ∧
      (∀ other, IsGap other → read keys (before ++ other ++ after) =
        read keys (before ++ gap ++ after)) ∧
      read keys (gap ++ after) = read keys after := by
  refine ⟨tokenize_append_gap hclosed hgap, fun other hother ↦ ?_, read_gap_append hgap.2⟩
  rw [read_append_gap hclosed hother, read_append_gap hclosed hgap]

/-- The first text ends with a definition key behind two hyphens, the second one with an unclosed
quote. -/
theorem tokenize_compositional_open_end :
    IsClosed ["k"] "-k \"ä b\"--k" ∧ IsGap "\t " ∧
      tokenize ["k"] "-k \"ä b\"--k\t -k \"c" =
        [⟨.definition "k" "ä b", 0, 9⟩, ⟨.switch "k" true, 9, 12⟩,
          ⟨.definition "k" "c", 14, 19⟩] := by
  have htokens : tokenize ["k"] "-k \"ä b\"--k" =
      [⟨.definition "k" "ä b", 0, 9⟩, ⟨.switch "k" true, 9, 12⟩] := by decide +kernel
  have hclosed : IsClosed ["k"] "-k \"ä b\"--k" := by
    rw [IsClosed, htokens]
    rintro last ⟨⟩
    refine ⟨?_, ?_⟩
    · rintro ⟨make, lead, value, hlead, -, htoken, -⟩
      cases hlead <;> cases htoken
    · rintro ⟨key, -, htoken, hwritten⟩
      cases htoken
      exact absurd hwritten (by decide)
  have hgap : IsGap "\t " := ⟨by decide, by simp [isBlank]⟩
  have happend : tokenize ["k"] ("-k \"ä b\"--k" ++ "\t " ++ "-k \"c") = _ :=
    (tokenize_compositional hclosed hgap).1
  refine ⟨hclosed, hgap, happend.trans ?_⟩
  rw [htokens]
  decide +kernel

end Token

end ServiceHost
