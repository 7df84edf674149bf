import ServiceHost.Proofs.Token.Lexer
import ServiceHost.Proofs.Token.Lexeme
import ServiceHost.Proofs.Token.Line

/-!
# The tokens that texts have

There are no escapes, so a quote in a value ends it or stands in a value without quotes. A value
that contains a quote therefore contains no blank and does not begin with the quote, and an argument
of this kind moreover has not the form of a definition. All other values can be written in quotes.
Nothing else is excluded: every list of tokens that respect this is what some text is read as,
under any definition keys.

## Main definitions

* `Token.IsRepresentable` : a token that is read from some text.
* `Token.encode`, `Token.encodeAll` : a text for a token and for a list of tokens.

## Main results

* `Token.isRepresentable_scanToken` : every scanned token is representable.
* `Token.scanToken_encode` : the text for a representable token is scanned as that token.
* `Token.exists_read_eq_iff` : the lists of tokens that texts have.
-/

namespace ServiceHost.Token

open ServiceHost.Text

variable {keys : List String} {chars after : List Char} {token : Token}

/-! ### Values with quotes -/

/-- The text contains no quote, or stands without quotes around it: it contains no blank and does
not begin with a quote. -/
def IsExpressible (value : String) : Prop :=
  '"' ∉ value.toList ∨ hasBlank value = false ∧ value.toList.head? ≠ some '"'

/-- Some text is read as the token. -/
def IsRepresentable : Token → Prop
  | argument text => '"' ∉ text.toList ∨ hasBlank text = false ∧ text.toList.head? ≠ some '"' ∧
      ∀ key value : String, isKey key.toList → text ≠ "-" ++ key ++ ":" ++ value
  | switch key value => value = true ∧ isKey key.toList
  | definition key value => isKey key.toList ∧ IsExpressible value

/-! ### What is read is representable -/

/-- A value without quotes is a beginning of the text. -/
theorem splitValue_append_rest (h : chars.head? ≠ some '"') :
    (splitValue chars).1.toList ++ (splitValue chars).2 = chars := by
  rw [splitValue_of_ne h, String.toList_ofList, List.takeWhile_append_dropWhile]

theorem head?_splitValue_ne (h : chars.head? ≠ some '"') :
    (splitValue chars).1.toList.head? ≠ some '"' := by
  intro hhead
  rw [← splitValue_append_rest h, List.head?_append, hhead] at h
  exact h rfl

/-- A value in quotes contains no quote. -/
theorem quote_notMem_splitValue (h : chars.head? = some '"') :
    '"' ∉ (splitValue chars).1.toList := by
  obtain ⟨chars, rfl⟩ := List.head?_eq_some_iff.mp h
  rw [splitValue_quote, String.toList_ofList]
  exact fun hmem ↦ absurd (List.mem_takeWhile_imp hmem) (by decide)

theorem isExpressible_splitValue (chars : List Char) : IsExpressible (splitValue chars).1 := by
  by_cases hquote : chars.head? = some '"'
  · exact .inl (quote_notMem_splitValue hquote)
  · exact .inr ⟨hasBlank_splitValue hquote, head?_splitValue_ne hquote⟩

/-- A text that is scanned as an argument without quotes does not begin with a definition. -/
theorem splitValue_ne_inline (hscan : scanToken keys chars = scanValue argument chars)
    (hquote : chars.head? ≠ some '"') {key value : String} (hkey : isKey key.toList) :
    (splitValue chars).1 ≠ "-" ++ key ++ ":" ++ value := by
  intro htext
  have hchars : chars = '-' :: (key.toList ++ ':' :: (value.toList ++ (splitValue chars).2)) := by
    have hsplit := splitValue_append_rest hquote
    rw [htext] at hsplit
    simpa using hsplit.symm
  rw [hchars, scanToken_inline hkey] at hscan
  exact absurd (congrArg Prod.fst hscan) nofun

/-- Every scanned token is representable. -/
theorem isRepresentable_scanToken (keys : List String) (chars : List Char) :
    (scanToken keys chars).1.IsRepresentable := by
  obtain ⟨make, lead, rest, hlead, hchars, hout⟩ | ⟨key, after, hkey, -, -, hout⟩ :=
    scanToken_cases keys chars
  · rw [hout]
    cases hlead with
    | argument =>
      rw [List.nil_append] at hchars
      subst hchars
      by_cases hquote : chars.head? = some '"'
      · exact .inl (quote_notMem_splitValue hquote)
      · exact .inr ⟨hasBlank_splitValue hquote, head?_splitValue_ne hquote,
          fun key value hkey ↦ splitValue_ne_inline hout hquote hkey⟩
    | inline hkey => exact ⟨hkey, isExpressible_splitValue rest⟩
    | separate hkey => exact ⟨hkey, isExpressible_splitValue rest⟩
  · rw [hout]
    exact ⟨rfl, hkey⟩

theorem isRepresentable_of_mem_scanned (keys : List String) (chars : List Char) :
    ∀ token ∈ scanned keys chars, token.IsRepresentable := by
  cases h : chars.dropWhile isBlank with
  | nil =>
    rw [scanned_of_blank h]
    exact fun _ hmem ↦ absurd hmem List.not_mem_nil
  | cons first following =>
    rw [scanned_of_token h]
    exact List.forall_mem_cons.mpr ⟨isRepresentable_scanToken keys _,
      isRepresentable_of_mem_scanned keys _⟩
termination_by chars.length
decreasing_by exact length_scanToken_lt keys h

/-- Every token of a text is representable. -/
theorem isRepresentable_of_mem_read {text : String} (h : token ∈ read keys text) :
    token.IsRepresentable := by
  rw [read_eq_scanned] at h
  exact isRepresentable_of_mem_scanned keys _ token h

/-! ### What is representable is read -/

/-- The value in quotes, or as it is if it contains a quote. -/
def encodeValue (value : String) : String := if '"' ∈ value.toList then value else inQuotes value

/-- A text for the token. -/
def encode : Token → String
  | argument text => encodeValue text
  | switch key _ => "--" ++ key
  | definition key value => "-" ++ key ++ ":" ++ encodeValue value

/-- A text for the tokens. -/
def encodeAll (tokens : List Token) : String := " ".intercalate (tokens.map encode)

theorem splitValue_encodeValue {value : String} (h : IsExpressible value) (hafter : closes after) :
    splitValue ((encodeValue value).toList ++ after) = (value, after) := by
  rw [encodeValue]
  split_ifs with hquote
  · obtain ⟨hblank, hhead⟩ := h.resolve_left (not_not_intro hquote)
    exact splitValue_bare hhead hblank hafter
  · exact splitValue_inQuotes hquote after

/-- A text with a quote is no switch, so it is an argument unless it is a definition. -/
theorem ofArgument_of_quote_mem {text : String} (hquote : '"' ∈ text.toList)
    (hinline : ∀ key value : String, isKey key.toList → text ≠ "-" ++ key ++ ":" ++ value) :
    ofArgument text = argument text := by
  have hkeyQuote : ∀ {key : String}, isKey key.toList → '"' ∉ key.toList := fun hkey hmem ↦
    absurd (isKeyChar_of_isKey hkey hmem) (by decide)
  refine ofArgument_eq_argument.mpr ⟨rfl, fun key hkey ↦ ⟨?_, ?_, fun value ↦ ?_⟩⟩
  · rintro rfl
    exact hkeyQuote hkey (by simpa using hquote)
  · rintro rfl
    exact hkeyQuote hkey (by simpa using hquote)
  · exact hinline key value hkey

theorem scanToken_encodeValue (keys : List String) {text : String}
    (h : (argument text).IsRepresentable) (hafter : closes after) :
    scanToken keys ((encodeValue text).toList ++ after) = (argument text, after) := by
  have hexpressible : IsExpressible text := h.imp_right fun h ↦ ⟨h.1, h.2.1⟩
  have hvalue : scanToken keys ((encodeValue text).toList ++ after) =
      scanValue argument ((encodeValue text).toList ++ after) := by
    rw [encodeValue]
    split_ifs with hquote
    · obtain ⟨hblank, -, hinline⟩ := h.resolve_left (not_not_intro hquote)
      exact scanToken_argument (ofArgument_of_quote_mem hquote hinline) hblank hafter
    · exact scanToken_of_head_ne (by simp [inQuotes])
  rw [hvalue, scanValue, splitValue_encodeValue hexpressible hafter]

/-- The text for a representable token is scanned as the token, before a blank or the end. -/
theorem scanToken_encode (keys : List String) (h : token.IsRepresentable) (hafter : closes after) :
    scanToken keys (token.encode.toList ++ after) = (token, after) := by
  cases token with
  | argument text => exact scanToken_encodeValue keys h hafter
  | switch key value =>
    obtain ⟨rfl, hkey⟩ := h
    have hchars : (switch key true).encode.toList ++ after =
        '-' :: '-' :: (key.toList ++ after) := by simp [encode]
    rw [hchars, scanToken_long hkey hafter]
  | definition key value =>
    obtain ⟨hkey, hvalue⟩ := h
    have hchars : (definition key value).encode.toList ++ after =
        '-' :: (key.toList ++ ':' :: ((encodeValue value).toList ++ after)) := by simp [encode]
    rw [hchars, scanToken_inline hkey, scanValue, splitValue_encodeValue hvalue hafter]

theorem closes_encode (h : token.IsRepresentable) : closes token.encode.toList = false := by
  cases token with
  | argument text =>
    rw [encode, encodeValue]
    split_ifs with hquote
    · obtain ⟨hblank, -⟩ := h.resolve_left (not_not_intro hquote)
      have hne : text ≠ "" := by
        rintro rfl
        exact absurd hquote (by decide)
      refine closes_of_not_needsQuotes ?_
      rw [needsQuotes, hblank, Bool.or_false, String.isEmpty_eq_false_iff]
      exact hne
    · simp [inQuotes, closes, isBlank]
  | switch key value => simp [encode, closes, isBlank]
  | definition key value => simp [encode, closes, isBlank]

/-- The text for representable tokens is read as the tokens. -/
theorem read_encodeAll (keys : List String) {tokens : List Token}
    (h : ∀ token ∈ tokens, token.IsRepresentable) : read keys (encodeAll tokens) = tokens := by
  rw [read_eq_scanned, encodeAll]
  induction tokens with
  | nil => exact scanned_nil keys
  | cons token tokens ih =>
    obtain ⟨htoken, htokens⟩ := List.forall_mem_cons.mp h
    have hscan := scanToken_encode keys htoken (closes_following (tokens.map encode))
    rw [List.map_cons, scanned_line_cons (closes_encode htoken) hscan, ih htokens]

/-- Under any definition keys, the lists of tokens that some text is read as are those whose
tokens are representable one by one. -/
theorem exists_read_eq_iff (keys : List String) (tokens : List Token) :
    (∃ text, read keys text = tokens) ↔ ∀ token ∈ tokens, token.IsRepresentable := by
  constructor
  · rintro ⟨text, rfl⟩ token hmem
    exact isRepresentable_of_mem_read hmem
  · exact fun h ↦ ⟨encodeAll tokens, read_encodeAll keys h⟩

end ServiceHost.Token
