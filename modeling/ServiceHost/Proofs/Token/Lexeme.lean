import ServiceHost.Proofs.Token.Word

/-!
# Written forms of scanned tokens

A token is scanned from the beginning of a text. A switch is a key behind one hyphen or two, before
a blank or the end. Every other token is a value behind a lead: an argument has an empty lead, and a
definition one that ends with a colon or, for definition keys, with blanks.

A value in quotes ends at its closing quote, whatever follows. All other tokens reach to a blank or
to the end of the text.

## Main definitions

* `Token.Lead` : what stands before the value of a token.
* `Token.EndsInQuotes` : a written form of a token whose value stands in quotes.

## Main results

* `Token.scanToken_cases` : what a scanned token was written as.
* `Token.closes_or_endsInQuotes` : what follows a scanned token.
-/

namespace ServiceHost.Token

open ServiceHost.Text

variable {keys : List String} {key : String} {chars after : List Char}

/-! ### Leads -/

/-- What stands before the value of a token. The function makes the token from the value. -/
inductive Lead (keys : List String) : (String → Token) → List Char → Prop
  /-- An argument is its value. -/
  | argument : Lead keys .argument []
  /-- The value of a definition follows a colon. -/
  | inline {key : String} (hkey : isKey key.toList) :
      Lead keys (.definition key) ('-' :: (key.toList ++ [':']))
  /-- The value of a definition with a definition key follows blanks. -/
  | separate {key : String} {gap : List Char} (hkey : isKey key.toList) (hmem : key ∈ keys)
      (hgap : gap ≠ []) (hblank : ∀ c ∈ gap, isBlank c) :
      Lead keys (.definition key) ('-' :: (key.toList ++ gap))

/-- The token is written as a lead and its value in quotes, so that the text ends with the closing
quote. -/
def EndsInQuotes (keys : List String) (token : Token) (written : String) : Prop :=
  ∃ make lead value, Lead keys make lead ∧ '"' ∉ value.toList ∧ token = make value ∧
    written = String.ofList lead ++ inQuotes value

/-! ### What a token was written as -/

/-- A text that ends or goes on with a blank begins with blanks, if anything else follows. -/
theorem takeWhile_ne_nil_of_closes (h : closes after) (hne : after.dropWhile isBlank ≠ []) :
    after.takeWhile isBlank ≠ [] := by
  cases after with
  | nil => exact absurd rfl hne
  | cons first after =>
    have hfirst : isBlank first := h
    simp [hfirst]

/-- Behind a key the scanner finds a value after a colon or after blanks, or the end of a switch. -/
theorem scanAfterKey?_cases {out : Token × List Char} (hkey : isKey key.toList)
    (h : scanAfterKey? keys key after = some out) :
    (∃ make lead rest, Lead keys make lead ∧ '-' :: (key.toList ++ after) = lead ++ rest ∧
        out = scanValue make rest) ∨
      closes after ∧ out = (switch key true, after) := by
  simp only [scanAfterKey?] at h
  split_ifs at h with hcolon hcloses hseparate
  · obtain ⟨value, rfl⟩ := List.head?_eq_some_iff.mp hcolon
    exact .inl ⟨_, _, value, .inline hkey, by simp, (Option.some.inj h).symm⟩
  · have hgap := takeWhile_ne_nil_of_closes (by simpa using hcloses) hseparate.2
    refine .inl ⟨_, _, after.dropWhile isBlank,
      .separate hkey hseparate.1 hgap fun c hc ↦ List.mem_takeWhile_imp hc, ?_,
      (Option.some.inj h).symm⟩
    rw [List.cons_append, List.append_assoc, List.takeWhile_append_dropWhile]
  · exact .inr ⟨by simpa using hcloses, (Option.some.inj h).symm⟩

theorem scanShort?_cases {out : Token × List Char} (h : scanShort? keys chars = some out) :
    (∃ make lead rest, Lead keys make lead ∧ chars = lead ++ rest ∧ out = scanValue make rest) ∨
      ∃ (key : String) (after : List Char), isKey key.toList ∧ closes after ∧
        chars = '-' :: (key.toList ++ after) ∧ out = (switch key true, after) := by
  unfold scanShort? at h
  split at h
  · obtain ⟨⟨key, after⟩, hsplit, hout⟩ := Option.bind_eq_some_iff.mp h
    obtain ⟨hkey, rfl, -⟩ := splitKey?_eq_some.mp hsplit
    exact (scanAfterKey?_cases hkey hout).imp_right fun ⟨hcloses, hswitch⟩ ↦
      ⟨key, after, hkey, hcloses, rfl, hswitch⟩
  · cases h

theorem scanLong?_cases {out : Token × List Char} (h : scanLong? chars = some out) :
    ∃ (key : String) (after : List Char), isKey key.toList ∧ closes after ∧
      chars = '-' :: '-' :: (key.toList ++ after) ∧ out = (switch key true, after) := by
  unfold scanLong? at h
  split at h
  · obtain ⟨⟨key, after⟩, hsplit, hout⟩ := Option.bind_eq_some_iff.mp h
    obtain ⟨hkey, rfl, -⟩ := splitKey?_eq_some.mp hsplit
    obtain ⟨hcloses, hout⟩ := Option.ite_none_right_eq_some.mp hout
    exact ⟨key, after, hkey, hcloses, rfl, (Option.some.inj hout).symm⟩
  · cases h

/-- A scanned token is a lead with a value or a switch. -/
theorem scanToken_cases (keys : List String) (chars : List Char) :
    (∃ make lead rest, Lead keys make lead ∧ chars = lead ++ rest ∧
        scanToken keys chars = scanValue make rest) ∨
      ∃ (key : String) (after : List Char), isKey key.toList ∧ closes after ∧
        (chars = '-' :: (key.toList ++ after) ∨ chars = '-' :: '-' :: (key.toList ++ after)) ∧
        scanToken keys chars = (switch key true, after) := by
  cases hrules : (scanShort? keys chars).or (scanLong? chars) with
  | none =>
    refine .inl ⟨_, [], chars, .argument, rfl, ?_⟩
    rw [scanToken, hrules]
    rfl
  | some out =>
    have hout : scanToken keys chars = out := by
      rw [scanToken, hrules]
      rfl
    rw [hout]
    rcases Option.or_eq_some_iff.mp hrules with hshort | ⟨-, hlong⟩
    · refine (scanShort?_cases hshort).imp_right ?_
      rintro ⟨key, after, hkey, hcloses, hchars, hswitch⟩
      exact ⟨key, after, hkey, hcloses, .inl hchars, hswitch⟩
    · obtain ⟨key, after, hkey, hcloses, hchars, hswitch⟩ := scanLong?_cases hlong
      exact .inr ⟨key, after, hkey, hcloses, .inr hchars, hswitch⟩

/-! ### What follows a token -/

/-- A value without quotes reaches to a blank or the end, and so does one without a closing
quote. -/
theorem splitValue_cases (chars : List Char) :
    closes (splitValue chars).2 ∨ '"' ∉ (splitValue chars).1.toList ∧
      chars = (inQuotes (splitValue chars).1).toList ++ (splitValue chars).2 := by
  by_cases hquote : chars.head? = some '"'
  · obtain ⟨chars, rfl⟩ := List.head?_eq_some_iff.mp hquote
    rw [splitValue_quote]
    cases hrest : chars.dropWhile (· != '"') with
    | nil => exact .inl rfl
    | cons first rest =>
      obtain rfl : first = '"' := by simpa using not_of_dropWhile_eq_cons hrest
      refine .inr ⟨fun hmem ↦ ?_, ?_⟩
      · rw [String.toList_ofList] at hmem
        exact absurd (List.mem_takeWhile_imp hmem) (by decide)
      · have hchars := List.takeWhile_append_dropWhile (p := (· != '"')) (l := chars)
        rw [hrest] at hchars
        simp [inQuotes, hchars]
  · rw [splitValue_of_ne hquote]
    left
    cases hrest : chars.dropWhile fun c ↦ !isBlank c with
    | nil => rfl
    | cons first rest => simpa [closes] using not_of_dropWhile_eq_cons hrest

/-- After a scanned token the text ends or goes on with a blank, unless the token ends with a
closing quote. -/
theorem closes_or_endsInQuotes (keys : List String) (chars : List Char) :
    closes (scanToken keys chars).2 ∨ ∃ written : String,
      chars = written.toList ++ (scanToken keys chars).2 ∧
        EndsInQuotes keys (scanToken keys chars).1 written := by
  obtain ⟨make, lead, rest, hlead, rfl, hout⟩ | ⟨key, after, -, hcloses, -, hout⟩ :=
    scanToken_cases keys chars
  · rw [hout]
    refine (splitValue_cases rest).imp_right fun ⟨hquote, hrest⟩ ↦ ?_
    refine ⟨String.ofList lead ++ inQuotes (splitValue rest).1, ?_, make, lead, _, hlead, hquote,
      rfl, rfl⟩
    rw [String.toList_append, String.toList_ofList, List.append_assoc]
    exact congrArg (lead ++ ·) hrest
  · rw [hout]
    exact .inl hcloses

end ServiceHost.Token
