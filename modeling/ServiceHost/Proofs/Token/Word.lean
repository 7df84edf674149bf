import ServiceHost.Proofs.Token.Argument
import ServiceHost.Proofs.Token.Scanner

/-!
# Scanning written tokens

A written token is scanned as that token, whatever comes after it, as long as this begins with a
blank or is empty. A value in quotes ends at its closing quote, and a value without quotes at the
next blank. A text without blanks and without a leading quote, a word, is therefore scanned as
the token that it stands for as an argument. Only a key that takes the value after it looks
further.

## Main results

* `Token.splitKey?_eq_some` : the key at the beginning of a text is the one that ends where no
  key goes on.
* `Token.scanToken_word` : a word is scanned as the token that it stands for.
* `Token.scanToken_separate` : a definition key is scanned together with the value after it.
-/

namespace ServiceHost.Token

open ServiceHost.Text

variable {keys : List String} {key : String} {chars after : List Char}

/-! ### Runs of characters before a blank -/

section Runs

variable {p : Char → Bool} (hp : ∀ c, isBlank c → p c = false)

include hp in
theorem takeWhile_append_of_closes (hafter : closes after) (chars : List Char) :
    (chars ++ after).takeWhile p = chars.takeWhile p := by
  induction chars with
  | nil =>
    cases after with
    | nil => rfl
    | cons first after => rw [List.nil_append, List.takeWhile_cons, hp first hafter]; rfl
  | cons first chars ih => rw [List.cons_append, List.takeWhile_cons, List.takeWhile_cons, ih]

include hp in
theorem dropWhile_append_of_closes (hafter : closes after) (chars : List Char) :
    (chars ++ after).dropWhile p = chars.dropWhile p ++ after := by
  induction chars with
  | nil =>
    cases after with
    | nil => rfl
    | cons first after => rw [List.nil_append, List.dropWhile_cons, hp first hafter]; rfl
  | cons first chars ih =>
    rw [List.cons_append, List.dropWhile_cons, List.dropWhile_cons, ih]
    split <;> rfl

end Runs

theorem head?_append_ne {c : Char} (hafter : closes after) (h : chars.head? ≠ some c)
    (hc : isBlank c = false) : (chars ++ after).head? ≠ some c := by
  cases chars with
  | cons first chars => exact h
  | nil =>
    intro hhead
    rw [closes, show after.head? = some c from hhead, Option.all_some, hc] at hafter
    cases hafter

theorem closes_append (h : closes chars = false) (after : List Char) :
    closes (chars ++ after) = false := by
  cases chars with
  | nil => cases h
  | cons first chars => exact h

theorem isKeyChar_of_isBlank (c : Char) (h : isBlank c) : isKeyChar c = false := by
  simp [isKeyChar, h]

/-- A key goes on only with a key character. -/
theorem splitKey?_eq_some : splitKey? chars = some (key, after) ↔
    isKey key.toList ∧ chars = key.toList ++ after ∧ ∀ c ∈ after.head?, isKeyChar c = false := by
  constructor
  · intro h
    obtain ⟨hkey, h⟩ := Option.ite_none_right_eq_some.mp h
    cases h
    refine ⟨by rwa [String.toList_ofList], ?_, fun c hc ↦ ?_⟩
    · rw [String.toList_ofList, List.takeWhile_append_dropWhile]
    · cases hrest : chars.dropWhile isKeyChar with
      | nil =>
        rw [hrest] at hc
        cases hc
      | cons first rest =>
        rw [hrest] at hc
        cases hc
        exact not_of_dropWhile_eq_cons hrest
  · rintro ⟨hkey, rfl, hafter⟩
    have hrun : after.takeWhile isKeyChar = [] ∧ after.dropWhile isKeyChar = after := by
      cases after with
      | nil => exact ⟨rfl, rfl⟩
      | cons first after => simp [hafter first rfl]
    have hchars : ∀ c ∈ key.toList, isKeyChar c := fun c hc ↦ isKeyChar_of_isKey hkey hc
    rw [splitKey?, List.takeWhile_append_of_pos hchars, List.dropWhile_append_of_pos hchars,
      hrun.1, hrun.2, List.append_nil, if_pos hkey, String.ofList_toList]

theorem splitKey?_of_closes (hkey : isKey key.toList) (hafter : closes after) :
    splitKey? (key.toList ++ after) = some (key, after) := by
  refine splitKey?_eq_some.mpr ⟨hkey, rfl, fun c hc ↦ isKeyChar_of_isBlank c ?_⟩
  rw [closes, hc] at hafter
  exact hafter

theorem splitKey?_colon (hkey : isKey key.toList) (chars : List Char) :
    splitKey? (key.toList ++ ':' :: chars) = some (key, ':' :: chars) := by
  refine splitKey?_eq_some.mpr ⟨hkey, rfl, ?_⟩
  rintro c ⟨⟩
  rfl

/-- No key reaches into a text that begins with a blank. -/
theorem splitKey?_append (hafter : closes after) (chars : List Char) :
    splitKey? (chars ++ after) = (splitKey? chars).map (Prod.map id (· ++ after)) := by
  rw [splitKey?, splitKey?, takeWhile_append_of_closes isKeyChar_of_isBlank hafter,
    dropWhile_append_of_closes isKeyChar_of_isBlank hafter]
  split_ifs <;> rfl

/-! ### Values -/

/-- A value in quotes ends at the closing quote. -/
theorem splitValue_inQuotes {value : String} (hquote : '"' ∉ value.toList) (after : List Char) :
    splitValue ((inQuotes value).toList ++ after) = (value, after) := by
  have hne : ∀ c ∈ value.toList, (c != '"') = true := fun c hc ↦ by
    rw [bne_iff_ne]
    rintro rfl
    exact hquote hc
  have hchars : (inQuotes value).toList ++ after = '"' :: (value.toList ++ '"' :: after) := by
    simp [inQuotes]
  rw [hchars, splitValue_quote, List.takeWhile_append_of_pos hne,
    List.dropWhile_append_of_pos hne]
  simp

/-- A value without quotes ends at the next blank. -/
theorem splitValue_bare {value : String} (hquote : value.toList.head? ≠ some '"')
    (hblank : hasBlank value = false) (hafter : closes after) :
    splitValue (value.toList ++ after) = (value, after) := by
  have hhead := head?_append_ne hafter hquote rfl
  have hall : ∀ c ∈ value.toList, (!isBlank c) = true := by
    simpa [hasBlank] using hblank
  have hclose : ∀ c, isBlank c → (!isBlank c) = false := fun c hc ↦ by rw [hc]; rfl
  rw [splitValue_of_ne hhead, takeWhile_append_of_closes hclose hafter,
    dropWhile_append_of_closes hclose hafter, List.takeWhile_eq_self_iff.mpr hall,
    List.dropWhile_eq_nil_iff.mpr hall, String.ofList_toList, List.nil_append]

/-- A value that begins with no quote contains no blank. -/
theorem hasBlank_splitValue (h : chars.head? ≠ some '"') :
    hasBlank (splitValue chars).1 = false := by
  rw [splitValue_of_ne h, hasBlank, String.toList_ofList, List.any_eq_false]
  intro c hc
  simpa using List.mem_takeWhile_imp hc

/-- A text that needs no quotes is not empty and begins with no blank. -/
theorem closes_of_not_needsQuotes {text : String} (h : needsQuotes text = false) :
    closes text.toList = false := by
  rw [needsQuotes, Bool.or_eq_false_iff, hasBlank] at h
  cases hchars : text.toList with
  | nil =>
    rw [String.toList_eq_nil_iff.mp hchars] at h
    exact absurd h.1 (by decide)
  | cons first chars =>
    rw [hchars, List.any_cons, Bool.or_eq_false_iff] at h
    exact h.2.1

/-! ### Tokens -/

theorem scanShort?_of_key (h : splitKey? chars = some (key, after)) :
    scanShort? keys ('-' :: chars) = scanAfterKey? keys key after := by
  rw [scanShort?, h]
  rfl

theorem scanShort?_of_no_key (h : splitKey? chars = none) :
    scanShort? keys ('-' :: chars) = none := by
  rw [scanShort?, h]
  rfl

theorem scanLong?_of_key (h : splitKey? chars = some (key, after)) :
    scanLong? ('-' :: '-' :: chars) =
      if closes after then some (switch key true, after) else none := by
  rw [scanLong?, h]
  rfl

theorem scanLong?_of_no_key (h : splitKey? chars = none) :
    scanLong? ('-' :: '-' :: chars) = none := by
  rw [scanLong?, h]
  rfl

theorem splitKey?_hyphen (chars : List Char) : splitKey? ('-' :: chars) = none := rfl

/-- A text without a hyphen at its beginning is scanned as an argument. -/
theorem scanToken_of_head_ne (h : chars.head? ≠ some '-') :
    scanToken keys chars = scanValue argument chars := by
  rw [scanToken, scanShort?_of_head_ne h, scanLong?_of_head_ne h]
  rfl

theorem scanToken_of_short {out : Token × List Char} (h : scanShort? keys chars = some out) :
    scanToken keys chars = out := by
  rw [scanToken, h]
  rfl

/-- A definition takes the value behind the colon. -/
theorem scanToken_inline (hkey : isKey key.toList) (chars : List Char) :
    scanToken keys ('-' :: (key.toList ++ ':' :: chars)) = scanValue (definition key) chars := by
  refine scanToken_of_short ?_
  rw [scanShort?_of_key (splitKey?_colon hkey chars)]
  rfl

theorem scanAfterKey?_of_closes (hafter : closes after) : scanAfterKey? keys key after =
    if key ∈ keys ∧ after.dropWhile isBlank ≠ [] then
      some (scanValue (definition key) (after.dropWhile isBlank))
    else some (switch key true, after) := by
  have hcolon : after.head? ≠ some ':' := fun h ↦ by
    rw [closes, h] at hafter
    exact absurd hafter (by decide)
  simp only [scanAfterKey?, if_neg hcolon, hafter, Bool.not_true, if_neg Bool.false_ne_true]

/-- A key that goes on with neither a colon nor a blank is part of an argument. -/
theorem scanAfterKey?_of_not_closes (hcolon : after.head? ≠ some ':')
    (hafter : closes after = false) : scanAfterKey? keys key after = none := by
  simp only [scanAfterKey?, if_neg hcolon, hafter, Bool.not_false, if_true]

/-- A definition key takes the value behind the blanks. -/
theorem scanToken_separate (hkey : isKey key.toList) (hmem : key ∈ keys) (hafter : closes after)
    (hvalue : after.dropWhile isBlank ≠ []) :
    scanToken keys ('-' :: (key.toList ++ after)) =
      scanValue (definition key) (after.dropWhile isBlank) := by
  refine scanToken_of_short ?_
  rw [scanShort?_of_key (splitKey?_of_closes hkey hafter), scanAfterKey?_of_closes hafter,
    if_pos ⟨hmem, hvalue⟩]

/-- A key behind one hyphen is scanned as a switch if it takes no value. -/
theorem scanToken_short (hkey : isKey key.toList) (hafter : closes after)
    (hvalue : key ∉ keys ∨ after.dropWhile isBlank = []) :
    scanToken keys ('-' :: (key.toList ++ after)) = (switch key true, after) := by
  refine scanToken_of_short ?_
  have hnot : ¬ (key ∈ keys ∧ after.dropWhile isBlank ≠ []) := fun h ↦
    hvalue.elim (fun hmem ↦ hmem h.1) h.2
  rw [scanShort?_of_key (splitKey?_of_closes hkey hafter), scanAfterKey?_of_closes hafter,
    if_neg hnot]

/-- A key behind two hyphens is scanned as a switch. -/
theorem scanToken_long (hkey : isKey key.toList) (hafter : closes after) :
    scanToken keys ('-' :: '-' :: (key.toList ++ after)) = (switch key true, after) := by
  rw [scanToken, scanShort?_of_no_key (splitKey?_hyphen _),
    scanLong?_of_key (splitKey?_of_closes hkey hafter), if_pos hafter]
  rfl

theorem isArgument_scanShort? {out : Token × List Char} (h : scanShort? keys chars = some out) :
    out.1.isArgument = false := by
  unfold scanShort? at h
  split at h
  · obtain ⟨⟨key, after⟩, -, h⟩ := Option.bind_eq_some_iff.mp h
    simp only [scanAfterKey?] at h
    split_ifs at h <;> cases h <;> rfl
  · cases h

theorem isArgument_scanLong? {out : Token × List Char} (h : scanLong? chars = some out) :
    out.1.isArgument = false := by
  unfold scanLong? at h
  split at h
  · obtain ⟨⟨key, after⟩, -, h⟩ := Option.bind_eq_some_iff.mp h
    obtain ⟨-, h⟩ := Option.ite_none_right_eq_some.mp h
    cases h
    rfl
  · cases h

/-- An argument is scanned as a value. -/
theorem eq_splitValue_of_argument {text : String} (h : (scanToken keys chars).1 = argument text) :
    text = (splitValue chars).1 := by
  rw [scanToken] at h
  cases hrules : (scanShort? keys chars).or (scanLong? chars) with
  | none =>
    rw [hrules] at h
    exact (argument.inj h).symm
  | some out =>
    have hout : out.1.isArgument = false := by
      rcases Option.or_eq_some_iff.mp hrules with hshort | ⟨-, hlong⟩
      · exact isArgument_scanShort? hshort
      · exact isArgument_scanLong? hlong
    rw [hrules, Option.getD_some] at h
    rw [h] at hout
    cases hout

/-! ### Words -/

section Words

variable {text : String}

/-- What follows the key in a word that is no definition and no switch is neither a colon nor
the end, so that the word is an argument. -/
theorem closes_rest_of_argument {hyphens rest : List Char} (after : List Char)
    (htext : ofArgument text = argument text)
    (hblank : hasBlank text = false) (hhyphens : hyphens = ['-'] ∨ hyphens = ['-', '-'])
    (hchars : text.toList = hyphens ++ chars) (hkey : splitKey? chars = some (key, rest)) :
    closes (rest ++ after) = false ∧ (hyphens = ['-'] → (rest ++ after).head? ≠ some ':') := by
  obtain ⟨hname, rfl, -⟩ := splitKey?_eq_some.mp hkey
  have hforms := (ofArgument_eq_argument.mp htext).2 key hname
  cases rest with
  | nil =>
    -- a key up to the end would make the word a switch
    rcases hhyphens with rfl | rfl
    · exact absurd (String.toList_injective (by simp [hchars])) hforms.1
    · exact absurd (String.toList_injective (by simp [hchars])) hforms.2.1
  | cons first rest =>
    refine ⟨?_, ?_⟩
    · have hmem : first ∈ text.toList := by simp [hchars]
      simpa [hasBlank, closes] using List.any_eq_false.mp hblank first hmem
    · -- a colon behind the key would make it a definition
      rintro rfl hfirst
      obtain rfl : first = ':' := Option.some.inj hfirst
      refine absurd (String.toList_injective ?_) (hforms.2.2 (String.ofList rest))
      simp [hchars]

/-- A word that is no definition and no switch is scanned as an argument. -/
theorem scanToken_argument (htext : ofArgument text = argument text)
    (hblank : hasBlank text = false) (hafter : closes after) :
    scanToken keys (text.toList ++ after) = scanValue argument (text.toList ++ after) := by
  by_cases hhead : text.toList.head? = some '-'
  · obtain ⟨chars, hchars⟩ := List.head?_eq_some_iff.mp hhead
    have hshort : scanShort? keys (text.toList ++ after) = none := by
      rw [hchars, List.cons_append]
      cases hkey : splitKey? chars with
      | none => exact scanShort?_of_no_key (by rw [splitKey?_append hafter, hkey]; rfl)
      | some out =>
        obtain ⟨hcloses, hcolon⟩ := closes_rest_of_argument after htext hblank (.inl rfl) hchars
          hkey
        rw [scanShort?_of_key (by rw [splitKey?_append hafter, hkey]; rfl)]
        exact scanAfterKey?_of_not_closes (hcolon rfl) hcloses
    have hlong : scanLong? (text.toList ++ after) = none := by
      rw [hchars, List.cons_append]
      by_cases hsecond : chars.head? = some '-'
      · obtain ⟨chars, rfl⟩ := List.head?_eq_some_iff.mp hsecond
        rw [List.cons_append]
        cases hkey : splitKey? chars with
        | none => exact scanLong?_of_no_key (by rw [splitKey?_append hafter, hkey]; rfl)
        | some out =>
          obtain ⟨hcloses, -⟩ := closes_rest_of_argument after htext hblank (.inr rfl) hchars hkey
          rw [scanLong?_of_key (by rw [splitKey?_append hafter, hkey]; rfl), hcloses]
          rfl
      · exact scanLong?_of_second_ne (head?_append_ne hafter hsecond rfl)
    rw [scanToken, hshort, hlong]
    rfl
  · exact scanToken_of_head_ne (head?_append_ne hafter hhead rfl)

/-- A word is scanned as the token that it stands for, unless it takes the value after it. -/
theorem scanToken_word (hquote : text.toList.head? ≠ some '"')
    (hvalue : ∀ {key value}, ofArgument text = definition key value →
      value.toList.head? ≠ some '"')
    (hblank : hasBlank text = false) (hafter : closes after)
    (hseparate : separateKey? keys text = none ∨ after.dropWhile isBlank = []) :
    scanToken keys (text.toList ++ after) = (ofArgument text, after) := by
  obtain ⟨key, value, hkey, rfl, htoken⟩ | ⟨key, hkey, rfl | rfl, htoken⟩ | htoken :=
    ofArgument_cases text
  · have hvalueBlank : hasBlank value = false := by
      simp only [hasBlank, String.toList_append, List.any_append, Bool.or_eq_false_iff] at hblank
      exact hblank.2
    have hchars : ("-" ++ key ++ ":" ++ value).toList ++ after =
        '-' :: (key.toList ++ ':' :: (value.toList ++ after)) := by simp
    rw [hchars, scanToken_inline hkey, scanValue,
      splitValue_bare (hvalue htoken) hvalueBlank hafter, htoken]
  · have hchars : ("-" ++ key).toList ++ after = '-' :: (key.toList ++ after) := by simp
    have hkeys : key ∉ keys ∨ after.dropWhile isBlank = [] :=
      hseparate.imp_left fun h hmem ↦ by
        rw [separateKey?_eq_some.mpr ⟨hkey, hmem, rfl⟩] at h
        cases h
    rw [hchars, scanToken_short hkey hafter hkeys, htoken]
  · have hchars : ("--" ++ key).toList ++ after = '-' :: '-' :: (key.toList ++ after) := by simp
    rw [hchars, scanToken_long hkey hafter, htoken]
  · rw [scanToken_argument htoken hblank hafter, scanValue,
      splitValue_bare hquote hblank hafter, htoken]

end Words

end ServiceHost.Token
