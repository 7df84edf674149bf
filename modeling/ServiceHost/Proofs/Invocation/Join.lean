import Mathlib.Data.List.TakeDrop
import ServiceHost.Invocation
import ServiceHost.Proofs.Token.Lexer
import ServiceHost.Proofs.Token.Line

/-!
# Reading the joined arguments

`Invocation.join` quotes each argument without a look at the definition keys and at its
neighbours. The joined line is read as the arguments stand for one by one, except where an
argument begins with a hyphen and contains a colon and a blank. Such an argument is cut after its
first colon, also if no key stands there, and what precedes the colon is never quoted. It survives
exactly if it is a definition with a key and no definition key before it takes it as a value.

## Main definitions

* `Invocation.Mixes`, `Invocation.IsWhole` : the arguments in question and those that survive.
* `Invocation.AllWhole` : every argument of a list survives under the definition keys.

## Main results

* `Invocation.scanned_join` : a joined line is read as its arguments stand for exactly if all of
  them survive.
-/

namespace ServiceHost.Invocation

open ServiceHost.Text ServiceHost.Token

/-! ### The arguments that survive -/

/-- The argument begins with a hyphen and contains a colon and a blank. -/
def Mixes (text : String) : Prop :=
  text.toList.head? = some '-' ∧ ':' ∈ text.toList ∧ hasBlank text

/-- The argument is a definition with a key, if it mixes a hyphen, a colon and a blank. -/
def IsWhole (text : String) : Prop :=
  Mixes text → ∃ key value : String, isKey key.toList ∧ text = "-" ++ key ++ ":" ++ value

/-- Every argument that mixes a hyphen, a colon and a blank is a definition with a key and is not
taken as a value by the definition key before it. -/
def AllWhole (keys : List String) : List String → Prop
  | [] => True
  | [text] => IsWhole text
  | text :: value :: rest =>
    match separateKey? keys text with
    | some _ => ¬ Mixes value ∧ AllWhole keys rest
    | none => IsWhole text ∧ AllWhole keys (value :: rest)

instance (text : String) : Decidable (Mixes text) := inferInstanceAs (Decidable (_ ∧ _ ∧ _))

instance (text : String) :
    Decidable (∃ key value : String, isKey key.toList ∧ text = "-" ++ key ++ ":" ++ value) :=
  match h : ofArgument text with
  | .definition key value => isTrue ⟨key, value, ofArgument_eq_definition.mp h⟩
  | .switch .. => isFalse fun ⟨_, _, hform⟩ ↦
    absurd (h.symm.trans (ofArgument_eq_definition.mpr hform)) nofun
  | .argument _ => isFalse fun ⟨_, _, hform⟩ ↦
    absurd (h.symm.trans (ofArgument_eq_definition.mpr hform)) nofun

instance (text : String) : Decidable (IsWhole text) := inferInstanceAs (Decidable (_ → _))

instance decidableAllWhole (keys : List String) : (texts : List String) →
    Decidable (AllWhole keys texts)
  | [] => isTrue trivial
  | [text] => inferInstanceAs (Decidable (IsWhole text))
  | text :: value :: rest =>
    have := decidableAllWhole keys rest
    have := decidableAllWhole keys (value :: rest)
    match h : separateKey? keys text with
    | some _ => decidable_of_iff (¬ Mixes value ∧ AllWhole keys rest) (by rw [AllWhole, h])
    | none => decidable_of_iff (IsWhole text ∧ AllWhole keys (value :: rest)) (by rw [AllWhole, h])

/-- Without definition keys no argument is taken as a value. -/
theorem allWhole_nil {texts : List String} :
    AllWhole [] texts ↔ ∀ text ∈ texts, IsWhole text := by
  induction texts with
  | nil => simp [AllWhole]
  | cons text texts ih =>
    cases texts with
    | nil => simp [AllWhole]
    | cons value rest => rw [AllWhole, separateKey?_nil, List.forall_mem_cons, ih]

/-! ### The written form of an argument -/

section Quote

variable {text written : String}

/-- The argument is cut after its first colon. -/
theorem cutKey_colon {key : String} (hkey : ':' ∉ key.toList) (value : String) :
    cutKey ("-" ++ key ++ ":" ++ value) = ("-" ++ key ++ ":", value) := by
  have hne : ∀ c ∈ '-' :: key.toList, (c != ':') = true := fun c hc ↦ by
    rw [bne_iff_ne]
    rintro rfl
    exact hkey (by simpa using hc)
  have hchars : ("-" ++ key ++ ":" ++ value).toList =
      ('-' :: key.toList) ++ ':' :: value.toList := by simp
  have hcut : (('-' :: key.toList) ++ ':' :: value.toList).head? = some '-' ∧
      ':' ∈ ('-' :: key.toList) ++ ':' :: value.toList := by simp
  simp only [cutKey, hchars, if_pos hcut, List.span_eq_takeWhile_dropWhile,
    List.takeWhile_append_of_pos hne, List.dropWhile_append_of_pos hne]
  simp [← String.toList_inj]

theorem cutKey_of_not_cut (h : ¬ (text.toList.head? = some '-' ∧ ':' ∈ text.toList)) :
    cutKey text = ("", text) := if_neg h

/-- An argument that begins with a hyphen and contains a colon has a first colon. -/
theorem exists_first_colon (hhead : text.toList.head? = some '-') (hcolon : ':' ∈ text.toList) :
    ∃ key value : String, ':' ∉ key.toList ∧ text = "-" ++ key ++ ":" ++ value := by
  obtain ⟨chars, hchars⟩ := List.head?_eq_some_iff.mp hhead
  have hmem : ':' ∈ chars := by simpa [hchars] using hcolon
  obtain ⟨key, value, rfl, hkey⟩ := List.eq_append_cons_of_mem hmem
  refine ⟨String.ofList key, String.ofList value, by rwa [String.toList_ofList], ?_⟩
  exact String.toList_injective (by simp [hchars])

/-- Of an argument with a hyphen and a colon only the value is quoted, if it contains a blank. -/
theorem quote_colon {key value : String} (hkey : ':' ∉ key.toList)
    (h : quote ("-" ++ key ++ ":" ++ value) = .ok written) :
    (hasBlank value = false ∧ value.toList.head? ≠ some '"' ∧
        written = "-" ++ key ++ ":" ++ value) ∨
      (hasBlank value ∧ '"' ∉ value.toList ∧ written = "-" ++ key ++ ":" ++ inQuotes value) := by
  have hne : ("-" ++ key ++ ":").isEmpty = false := by
    rw [String.isEmpty_eq_false_iff]
    exact fun h ↦ by simpa using congrArg String.toList h
  simp only [quote, cutKey_colon hkey, hne, Bool.false_and, Bool.or_false] at h
  split_ifs at h with herror hblank
  · obtain ⟨-, hquote⟩ := not_or.mp herror
    exact .inr ⟨hblank, fun hmem ↦ hquote ⟨hblank, hmem⟩, (Except.ok.inj h).symm⟩
  · exact .inl ⟨by simpa using hblank, (not_or.mp herror).1, (Except.ok.inj h).symm⟩

/-- Any other argument is quoted as a whole, if it needs quotes. -/
theorem quote_of_not_cut (hcut : ¬ (text.toList.head? = some '-' ∧ ':' ∈ text.toList))
    (h : quote text = .ok written) :
    (needsQuotes text = false ∧ text.toList.head? ≠ some '"' ∧ written = text) ∨
      (needsQuotes text ∧ '"' ∉ text.toList ∧ written = inQuotes text) := by
  have hneeds : (hasBlank text || (("" : String).isEmpty && text.isEmpty)) = needsQuotes text := by
    rw [needsQuotes, Bool.or_comm]
    rfl
  simp only [quote, cutKey_of_not_cut hcut, hneeds] at h
  split_ifs at h with herror hneeds
  · obtain ⟨-, hquote⟩ := not_or.mp herror
    refine .inr ⟨hneeds, fun hmem ↦ hquote ⟨hneeds, hmem⟩, ?_⟩
    rw [← Except.ok.inj h, String.empty_append]
  · exact .inl ⟨by simpa using hneeds, (not_or.mp herror).1, (Except.ok.inj h).symm⟩

theorem hasBlank_append (a b : String) : hasBlank (a ++ b) = (hasBlank a || hasBlank b) := by
  rw [hasBlank, String.toList_append, List.any_append]
  rfl

theorem needsQuotes_of_head? {c : Char} (hhead : text.toList.head? = some c)
    (hblank : hasBlank text = false) : needsQuotes text = false := by
  rw [needsQuotes, hblank, Bool.or_false, String.isEmpty_eq_false_iff]
  rintro rfl
  cases hhead

theorem needsQuotes_of_switch {key : String} (hkey : isKey key.toList)
    (htext : text = "-" ++ key ∨ text = "--" ++ key) : needsQuotes text = false := by
  have hblank : hasBlank key = false :=
    List.any_eq_false.mpr fun c hc ↦ by simp [isBlank_of_isKey hkey hc]
  rcases htext with rfl | rfl
  · exact needsQuotes_of_head? (c := '-') (by simp) (by rw [hasBlank_append, hblank]; rfl)
  · exact needsQuotes_of_head? (c := '-') (by simp) (by rw [hasBlank_append, hblank]; rfl)

/-- A text that needs quotes has the form of no switch. -/
theorem ofArgument_of_needsQuotes (hneeds : needsQuotes text)
    (hdefinition : ∀ {key value}, ofArgument text ≠ definition key value) :
    ofArgument text = argument text := by
  obtain ⟨key, value, -, -, htoken⟩ | ⟨key, hkey, htext, -⟩ | htoken := ofArgument_cases text
  · exact absurd htoken hdefinition
  · rw [needsQuotes_of_switch hkey htext] at hneeds
    cases hneeds
  · exact htoken

/-- A definition key whose value stands apart is written as it is. -/
theorem quote_of_separateKey? {keys : List String} {key : String}
    (hkey : separateKey? keys text = some key) (h : quote text = .ok written) :
    written = text := by
  obtain ⟨hname, -, rfl⟩ := separateKey?_eq_some.mp hkey
  have hcut : ¬ (("-" ++ key).toList.head? = some '-' ∧ ':' ∈ ("-" ++ key).toList) := by
    rintro ⟨-, hcolon⟩
    exact colon_notMem_of_isKey hname (by simpa using hcolon)
  obtain ⟨-, -, hwritten⟩ | ⟨hneeds, -, -⟩ := quote_of_not_cut hcut h
  · exact hwritten
  · rw [needsQuotes_of_switch hname (.inl rfl)] at hneeds
    cases hneeds

/-- An argument that does not mix a hyphen, a colon and a blank is written as it is or in quotes
as a whole. -/
theorem quote_of_not_mixes (hmixes : ¬ Mixes text) (h : quote text = .ok written) :
    (needsQuotes text = false ∧ text.toList.head? ≠ some '"' ∧ written = text) ∨
      (needsQuotes text ∧ '"' ∉ text.toList ∧ written = inQuotes text) := by
  by_cases hcut : text.toList.head? = some '-' ∧ ':' ∈ text.toList
  · have hblank : hasBlank text = false := by
      simpa using fun hblank ↦ hmixes ⟨hcut.1, hcut.2, hblank⟩
    have hquote : text.toList.head? ≠ some '"' := by
      rw [hcut.1]
      decide
    obtain ⟨key, value, hkey, rfl⟩ := exists_first_colon hcut.1 hcut.2
    have hvalue : hasBlank value = false := by
      rw [hasBlank_append, Bool.or_eq_false_iff] at hblank
      exact hblank.2
    obtain ⟨-, -, hwritten⟩ | ⟨hvalue', -, -⟩ := quote_colon hkey h
    · exact .inl ⟨needsQuotes_of_head? hcut.1 hblank, hquote, hwritten⟩
    · rw [hvalue] at hvalue'
      cases hvalue'
  · exact quote_of_not_cut hcut h

/-- No part of an argument up to its first colon is quoted. -/
theorem head?_written_of_mixes (h : quote text = .ok written) (hmixes : Mixes text) :
    written.toList.head? = some '-' := by
  obtain ⟨key, value, hkey, rfl⟩ := exists_first_colon hmixes.1 hmixes.2.1
  obtain ⟨-, -, rfl⟩ | ⟨-, -, rfl⟩ := quote_colon hkey h <;> simp

/-- The written form of an argument is not empty and begins with no blank. -/
theorem closes_written (h : quote text = .ok written) : closes written.toList = false := by
  by_cases hmixes : Mixes text
  · rw [closes, head?_written_of_mixes h hmixes]
    rfl
  · obtain ⟨hneeds, -, rfl⟩ | ⟨-, -, rfl⟩ := quote_of_not_mixes hmixes h
    · exact closes_of_not_needsQuotes hneeds
    · simp [inQuotes, closes, isBlank]

end Quote

/-! ### One argument of the line -/

section Scan

variable {keys : List String} {text written : String} {after : List Char}

/-- An argument that does not mix a hyphen, a colon and a blank can be read back as a value. -/
theorem splitValue_written (h : quote text = .ok written) (hmixes : ¬ Mixes text)
    (hafter : closes after) : splitValue (written.toList ++ after) = (text, after) := by
  obtain ⟨hneeds, hquote, rfl⟩ | ⟨-, hquote, rfl⟩ := quote_of_not_mixes hmixes h
  · rw [needsQuotes, Bool.or_eq_false_iff] at hneeds
    exact splitValue_bare hquote hneeds.2 hafter
  · exact splitValue_inQuotes hquote after

/-- What is read as a value where an argument mixes a hyphen, a colon and a blank contains no
blank, so that it is another value. -/
theorem splitValue_written_ne (h : quote text = .ok written) (hmixes : Mixes text)
    (after : List Char) : (splitValue (written.toList ++ after)).1 ≠ text := by
  intro htext
  have hhead : (written.toList ++ after).head? ≠ some '"' := by
    simp [List.head?_append, head?_written_of_mixes h hmixes]
  have hblank := hasBlank_splitValue hhead
  rw [htext, hmixes.2.2] at hblank
  cases hblank

/-- A definition is read back with its value. -/
theorem scanToken_written_inline {key value : String} (hkey : isKey key.toList)
    (h : quote ("-" ++ key ++ ":" ++ value) = .ok written) (hafter : closes after) :
    scanToken keys (written.toList ++ after) = (definition key value, after) := by
  have hscan : ∀ chars : List Char, scanToken keys (("-" ++ key ++ ":").toList ++ chars) =
      scanValue (definition key) chars := fun chars ↦ by
    have hchars : ("-" ++ key ++ ":").toList ++ chars = '-' :: (key.toList ++ ':' :: chars) := by
      simp
    rw [hchars, scanToken_inline hkey]
  obtain ⟨hblank, hquote, rfl⟩ | ⟨-, hquote, rfl⟩ := quote_colon (colon_notMem_of_isKey hkey) h
  · rw [String.toList_append, List.append_assoc, hscan, scanValue,
      splitValue_bare hquote hblank hafter]
  · rw [String.toList_append, List.append_assoc, hscan, scanValue, splitValue_inQuotes hquote]

/-- An argument that survives is read as the token that it stands for, unless it takes the value
after it. -/
theorem scanToken_written (h : quote text = .ok written) (hwhole : IsWhole text)
    (hafter : closes after)
    (hseparate : separateKey? keys text = none ∨ after.dropWhile isBlank = []) :
    scanToken keys (written.toList ++ after) = (ofArgument text, after) := by
  by_cases hform : ∃ key value, ofArgument text = definition key value
  · obtain ⟨key, value, htoken⟩ := hform
    obtain ⟨hkey, rfl⟩ := ofArgument_eq_definition.mp htoken
    rw [scanToken_written_inline hkey h hafter, htoken]
  · have hdefinition : ∀ {key value}, ofArgument text ≠ definition key value :=
      fun {key value} htoken ↦ hform ⟨key, value, htoken⟩
    have hmixes : ¬ Mixes text := fun hmixes ↦ by
      obtain ⟨key, value, hform⟩ := hwhole hmixes
      exact hdefinition (ofArgument_eq_definition.mpr hform)
    obtain ⟨hneeds, hquote, rfl⟩ | ⟨hneeds, hquote, rfl⟩ := quote_of_not_mixes hmixes h
    · have hblank := (Bool.or_eq_false_iff.mp hneeds).2
      exact scanToken_word hquote (fun htoken ↦ absurd htoken hdefinition) hblank hafter hseparate
    · have htoken := ofArgument_of_needsQuotes hneeds hdefinition
      have hhead : ((inQuotes text).toList ++ after).head? ≠ some '-' := by simp [inQuotes]
      rw [scanToken_of_head_ne hhead, scanValue, splitValue_inQuotes hquote, htoken]

/-- An argument that does not survive is read as another token first. -/
theorem scanToken_written_ne (keys : List String) (h : quote text = .ok written)
    (hwhole : ¬ IsWhole text) (after : List Char) :
    (scanToken keys (written.toList ++ after)).1 ≠ ofArgument text := by
  obtain ⟨hmixes, hform⟩ := Classical.not_imp.mp hwhole
  have hneeds : needsQuotes text := by rw [needsQuotes, hmixes.2.2, Bool.or_true]
  rw [ofArgument_of_needsQuotes hneeds fun htoken ↦
    hform ⟨_, _, ofArgument_eq_definition.mp htoken⟩]
  exact fun heq ↦ splitValue_written_ne h hmixes after (eq_splitValue_of_argument heq).symm

end Scan

/-! ### The line -/

section Line

variable {keys : List String}

/-- The written forms of a list of arguments begin with that of its first argument. -/
theorem mapM_quote_cons {text : String} {texts pieces : List String}
    (h : (text :: texts).mapM quote = .ok pieces) :
    ∃ written rest, quote text = .ok written ∧ texts.mapM quote = .ok rest ∧
      pieces = written :: rest := by
  rw [List.mapM_cons] at h
  cases hwritten : quote text with
  | error error => simp [hwritten, bind, Except.bind] at h
  | ok written =>
    cases hrest : texts.mapM quote with
    | error error => simp [hwritten, hrest, bind, Except.bind] at h
    | ok rest =>
      simp only [hwritten, hrest, bind, Except.bind, pure, Except.pure, Except.ok.injEq] at h
      exact ⟨written, rest, rfl, rfl, h.symm⟩

/-- A piece is read as the token that its argument stands for exactly if the argument survives,
and the line goes on with the next piece. -/
theorem scanned_piece {text written : String} (h : quote text = .ok written)
    {pieces : List String} {tokens : List Token}
    (hseparate : separateKey? keys text = none ∨ pieces = []) :
    scanned keys (" ".intercalate (written :: pieces)).toList = ofArgument text :: tokens ↔
      IsWhole text ∧ scanned keys (" ".intercalate pieces).toList = tokens := by
  rw [toList_line_cons, scanned_of_not_closes (closes_append (closes_written h) _)]
  by_cases hwhole : IsWhole text
  · have hend : separateKey? keys text = none ∨ (following pieces).dropWhile isBlank = [] :=
      hseparate.imp_right fun hpieces ↦ by rw [hpieces]; rfl
    rw [scanToken_written h hwhole (closes_following pieces) hend, scanned_following]
    simp [hwhole]
  · have hne := scanToken_written_ne keys h hwhole (following pieces)
    simp [hwhole, hne]

/-- A definition key takes its value from the piece after it. -/
theorem scanToken_following {key value written : String} (hkey : isKey key.toList)
    (hmem : key ∈ keys) (hvalue : quote value = .ok written) (pieces : List String) :
    scanToken keys (("-" ++ key).toList ++ following (written :: pieces)) =
      scanValue (definition key) (written.toList ++ following pieces) := by
  have hcloses := closes_append (closes_written hvalue) (following pieces)
  have hskip : (following (written :: pieces)).dropWhile isBlank =
      written.toList ++ following pieces := by
    rw [following, List.dropWhile_cons_of_pos rfl, toList_line_cons,
      dropWhile_of_not_closes hcloses]
  have hne : (following (written :: pieces)).dropWhile isBlank ≠ [] := by
    rw [hskip]
    intro hnil
    rw [hnil] at hcloses
    cases hcloses
  rw [← hskip, ← scanToken_separate hkey hmem (closes_following _) hne]
  simp

/-- A definition key is read with the argument after it exactly if this can be read back as a
value, and the line goes on with the piece after both. -/
theorem scanned_separate {text key value written writtenValue : String}
    (hkey : separateKey? keys text = some key) (h : quote text = .ok written)
    (hvalue : quote value = .ok writtenValue) {pieces : List String} {tokens : List Token} :
    scanned keys (" ".intercalate (written :: writtenValue :: pieces)).toList =
        definition key value :: tokens ↔
      ¬ Mixes value ∧ scanned keys (" ".intercalate pieces).toList = tokens := by
  have hstart := closes_append (closes_written h) (following (writtenValue :: pieces))
  obtain rfl := quote_of_separateKey? hkey h
  obtain ⟨hname, hmem, rfl⟩ := separateKey?_eq_some.mp hkey
  rw [toList_line_cons, scanned_of_not_closes hstart, scanToken_following hname hmem hvalue,
    scanValue]
  by_cases hmixes : Mixes value
  · have hne := splitValue_written_ne hvalue hmixes (following pieces)
    simp [hmixes, hne]
  · rw [splitValue_written hvalue hmixes (closes_following pieces), scanned_following]
    simp [hmixes]

/-- A joined line is read as its arguments stand for exactly if all of them survive. -/
theorem scanned_join {arguments pieces : List String}
    (h : arguments.mapM quote = .ok pieces) :
    scanned keys (" ".intercalate pieces).toList = ofArguments keys arguments ↔
      AllWhole keys arguments := by
  -- the cases are those of the reading, where a definition key consumes two arguments at once
  induction arguments using ofArguments.induct keys generalizing pieces with
  | case1 =>
    cases h
    simp [ofArguments, AllWhole]
  | case2 text =>
    obtain ⟨written, rest, hwritten, hrest, rfl⟩ := mapM_quote_cons h
    obtain rfl : rest = [] := (Except.ok.inj hrest).symm
    rw [ofArguments, AllWhole, scanned_piece hwritten (.inr rfl)]
    simp
  | case3 text value texts key hkey ih =>
    obtain ⟨written, rest, hwritten, hrest, rfl⟩ := mapM_quote_cons h
    obtain ⟨writtenValue, rest, hvalue, hrest', rfl⟩ := mapM_quote_cons hrest
    rw [ofArguments, AllWhole, hkey, scanned_separate hkey hwritten hvalue, ih hrest']
  | case4 text value texts hkey ih =>
    obtain ⟨written, rest, hwritten, hrest, rfl⟩ := mapM_quote_cons h
    rw [ofArguments, AllWhole, hkey, scanned_piece hwritten (.inl hkey), ih hrest]

theorem exists_pieces_of_join {arguments : List String} {text : String}
    (h : join arguments = .ok text) :
    ∃ pieces, arguments.mapM quote = .ok pieces ∧ text = " ".intercalate pieces := by
  cases hpieces : arguments.mapM quote with
  | error error => simp [join, hpieces, bind, Except.bind] at h
  | ok pieces =>
    simp only [join, hpieces, bind, Except.bind, pure, Except.pure, Except.ok.injEq] at h
    exact ⟨pieces, rfl, h.symm⟩

/-- A joined line of arguments that all survive is read as the arguments stand for under the
definition keys. -/
theorem read_join {arguments : List String} {text : String} (hjoin : join arguments = .ok text)
    (hwhole : AllWhole keys arguments) : Token.read keys text = ofArguments keys arguments := by
  obtain ⟨pieces, hpieces, rfl⟩ := exists_pieces_of_join hjoin
  rw [read_eq_scanned]
  exact (scanned_join hpieces).mpr hwhole

/-- Quotes come from the joining, and the value of a definition key may stand apart. -/
theorem read_join_two_words :
    Token.read ["instance"] "install -instance \"two words\" -a:\"b c\" --d" =
      [.argument "install", .definition "instance" "two words", .definition "a" "b c",
        .switch "d" true] :=
  read_join (show join ["install", "-instance", "two words", "-a:b c", "--d"] = .ok _ by decide)
    (by decide)

theorem error_of_quote {text : String} {error : ConfigurationError}
    (h : quote text = .error error) : error = .unquotableArgument text := by
  simp only [quote] at h
  split_ifs at h
  exact (Except.error.inj h).symm

/-- The error of joining names the first argument that is refused. -/
theorem error_of_mapM_quote {arguments : List String} {error : ConfigurationError}
    (h : arguments.mapM quote = .error error) :
    ∃ argument ∈ arguments, error = .unquotableArgument argument := by
  induction arguments with
  | nil => cases h
  | cons text texts ih =>
    rw [List.mapM_cons] at h
    cases hwritten : quote text with
    | error error' =>
      rw [hwritten] at h
      obtain rfl : error' = error := Except.error.inj h
      exact ⟨text, List.mem_cons_self, error_of_quote hwritten⟩
    | ok written =>
      cases hrest : texts.mapM quote with
      | ok rest => simp [hwritten, hrest, bind, Except.bind, pure, Except.pure] at h
      | error error' =>
        rw [hwritten, hrest] at h
        obtain rfl : error' = error := Except.error.inj h
        obtain ⟨argument, hmem, herror⟩ := ih hrest
        exact ⟨argument, List.mem_cons_of_mem text hmem, herror⟩

theorem error_of_join {arguments : List String} {error : ConfigurationError}
    (h : join arguments = .error error) :
    ∃ argument ∈ arguments, error = .unquotableArgument argument := by
  cases hpieces : arguments.mapM quote with
  | ok pieces => simp [join, hpieces, bind, Except.bind, pure, Except.pure] at h
  | error error' =>
    rw [join, hpieces] at h
    obtain rfl : error' = error := Except.error.inj h
    exact error_of_mapM_quote hpieces

/-- Without definition keys a joined line is read as one token for each argument, the one that it
stands for, exactly if all arguments survive. Only a refused argument leads to an error. -/
theorem read_join_eq_map_iff (arguments : List String) :
    (∀ text, join arguments = .ok text →
        (Token.read [] text = arguments.map ofArgument ↔
          ∀ argument ∈ arguments, IsWhole argument)) ∧
      ∀ error, join arguments = .error error →
        ∃ argument ∈ arguments, error = .unquotableArgument argument := by
  refine ⟨fun text hjoin ↦ ?_, fun error ↦ error_of_join⟩
  obtain ⟨pieces, hpieces, rfl⟩ := exists_pieces_of_join hjoin
  rw [read_eq_scanned, ← ofArguments_nil, scanned_join hpieces, allWhole_nil]

theorem read_join_value_with_blank :
    Token.read [] "run -a:\"b c\"" = [.argument "run", .definition "a" "b c"] :=
  ((read_join_eq_map_iff ["run", "-a:b c"]).1 _ (by decide)).mpr (by decide)

/-- The quote and the blank before the first colon are written as they are, so that one argument is
read as two tokens. -/
theorem read_join_split :
    join ["-a \"b:c"] = .ok "-a \"b:c" ∧
      Token.read [] "-a \"b:c" = [.switch "a" true, .argument "b:c"] ∧
      ["-a \"b:c"].map ofArgument = [.argument "-a \"b:c"] := by
  have hfirst : scanToken [] ['-', 'a', ' ', '"', 'b', ':', 'c'] =
      (.switch "a" true, [' ', '"', 'b', ':', 'c']) := by decide
  have hsecond : scanToken [] ['"', 'b', ':', 'c'] = (.argument "b:c", []) := by decide
  have hread : Token.read [] "-a \"b:c" = [.switch "a" true, .argument "b:c"] := by
    rw [read_eq_scanned, show "-a \"b:c".toList = ['-', 'a', ' ', '"', 'b', ':', 'c'] from rfl,
      scanned_of_not_closes rfl, hfirst, scanned_cons_of_isBlank rfl, scanned_of_not_closes rfl,
      hsecond, scanned_nil]
  exact ⟨by decide, hread, by decide⟩

end Line

end ServiceHost.Invocation
