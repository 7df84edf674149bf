import ServiceHost.Proofs.Grammar.Classification
import ServiceHost.Proofs.Token.Concatenation

/-!
# Spellings of options

An option can be written in several ways. The value of a definition stands behind a colon or, if
the key is a definition key, behind blanks, and in quotes or, if it needs none, without them. A
switch has two hyphens or, unless its key is a definition key, one.

Each spelling is scanned as the same token before any blank, whatever its value looks like. Between
two texts one spelling can therefore stand for another, unless the text before it ends with a token
that goes on.

## Main definitions

* `Token.Spells` : the spellings of a token.

## Main results

* `Token.Spells.scanToken_append` : a spelling is scanned as its token before any blank.
* `Grammar.parse_between` : what a text with a spelling in it yields.
* `Grammar.parse_spellings` : all spellings of an option yield the same between two texts.
-/

namespace ServiceHost

open ServiceHost.Text

namespace Token

variable {keys : List String} {token : Token} {chars : List Char}

/-! ### Spellings and tokens -/

/-- The text is a spelling of the token under the given definition keys. -/
inductive Spells (keys : List String) : Token → List Char → Prop
  /-- A value in quotes behind its lead. -/
  | quoted {make : String → Token} {lead : List Char} {value : String}
      (hlead : Lead keys make lead) (hquote : '"' ∉ value.toList) :
      Spells keys (make value) (lead ++ (inQuotes value).toList)
  /-- A value that needs no quotes behind a key. -/
  | bare {make : String → Token} {lead : List Char} {value : String}
      (hlead : Lead keys make lead) (hne : lead ≠ []) (hquote : '"' ∉ value.toList)
      (hvalue : needsQuotes value = false) : Spells keys (make value) (lead ++ value.toList)
  /-- A key behind two hyphens. -/
  | long {key : String} (hkey : isKey key.toList) :
      Spells keys (switch key true) ('-' :: '-' :: key.toList)
  /-- A key behind one hyphen that takes no value. -/
  | short {key : String} (hkey : isKey key.toList) (hmem : key ∉ keys) :
      Spells keys (switch key true) ('-' :: key.toList)

theorem Lead.closes_append {make : String → Token} {lead : List Char} (h : Lead keys make lead)
    (hchars : closes chars = false) : closes (lead ++ chars) = false := by
  cases h with
  | argument => exact hchars
  | inline | separate => rfl

/-- A spelling begins with no blank. -/
theorem Spells.closes_eq_false (h : Spells keys token chars) : closes chars = false := by
  cases h with
  | quoted hlead => exact hlead.closes_append (by simp [inQuotes, closes, isBlank])
  | bare hlead _ _ hvalue => exact hlead.closes_append (closes_of_not_needsQuotes hvalue)
  | long | short => rfl

/-- A spelling is scanned as its token before any blank. -/
theorem Spells.scanToken_append {after : List Char} (h : Spells keys token chars)
    (hafter : closes after) : scanToken keys (chars ++ after) = (token, after) := by
  cases h with
  | @quoted make lead value hlead hquote =>
    have hchars : (inQuotes value).toList ++ after = '"' :: (value.toList ++ '"' :: after) := by
      simp [inQuotes]
    rw [List.append_assoc, hchars, scanToken_lead hlead, ← hchars, scanValue,
      splitValue_inQuotes hquote]
  | @bare make lead value hlead hne hquote hvalue =>
    have hhead : value.toList.head? ≠ some '"' := fun h ↦ hquote (List.mem_of_mem_head? h)
    have hblank : hasBlank value = false := (Bool.or_eq_false_iff.mp hvalue).2
    have hcloses := closes_append (closes_of_not_needsQuotes hvalue) after
    rw [List.append_assoc, scanToken_lead_of_ne_nil hlead hne hcloses, scanValue,
      splitValue_bare hhead hblank hafter]
  | long hkey => exact scanToken_long hkey hafter
  | short hkey hmem => exact scanToken_short hkey hafter (.inl hmem)

/-- Before a blank a spelling is read as its token. -/
theorem Spells.read_append {written : String} (h : Spells keys token written.toList)
    (after : String) : read keys (written ++ " " ++ after) = token :: read keys after := by
  have hcloses : closes (' ' :: after.toList) := rfl
  have hchars : (written ++ " " ++ after).toList = written.toList ++ ' ' :: after.toList := by simp
  rw [read_eq_scanned, read_eq_scanned, hchars,
    scanned_of_not_closes (closes_append h.closes_eq_false _), h.scanToken_append hcloses,
    scanned_cons_of_isBlank rfl]

/-- A spelling between two texts is read as its token. -/
theorem Spells.read_between {before written : String} (h : Spells keys token written.toList)
    (hclosed : IsClosed keys before) (after : String) :
    read keys (before ++ " " ++ written ++ " " ++ after) =
      read keys before ++ token :: read keys after := by
  have hgap : IsGap " " := ⟨by decide, by simp [isBlank]⟩
  have hparts : before ++ " " ++ written ++ " " ++ after =
      before ++ " " ++ (written ++ " " ++ after) := by
    simp only [String.append_assoc]
  rw [hparts, read_append_gap hclosed hgap, h.read_append]

/-! ### Spellings of one option -/

variable {key value : String}

theorem spells_inline_quoted (hkey : isKey key.toList) (hquote : '"' ∉ value.toList) :
    Spells keys (definition key value) ("-" ++ key ++ ":" ++ inQuotes value).toList := by
  simpa using Spells.quoted (.inline hkey) hquote

theorem spells_inline_bare (hkey : isKey key.toList) (hquote : '"' ∉ value.toList)
    (hvalue : needsQuotes value = false) :
    Spells keys (definition key value) ("-" ++ key ++ ":" ++ value).toList := by
  simpa using Spells.bare (.inline hkey) (List.cons_ne_nil _ _) hquote hvalue

theorem lead_separate (hkey : isKey key.toList) (hmem : key ∈ keys) :
    Lead keys (definition key) ('-' :: (key.toList ++ [' '])) :=
  .separate hkey hmem (List.cons_ne_nil _ _) (by simp [isBlank])

theorem spells_separate_quoted (hkey : isKey key.toList) (hmem : key ∈ keys)
    (hquote : '"' ∉ value.toList) :
    Spells keys (definition key value) ("-" ++ key ++ " " ++ inQuotes value).toList := by
  simpa using Spells.quoted (lead_separate hkey hmem) hquote

theorem spells_separate_bare (hkey : isKey key.toList) (hmem : key ∈ keys)
    (hquote : '"' ∉ value.toList) (hvalue : needsQuotes value = false) :
    Spells keys (definition key value) ("-" ++ key ++ " " ++ value).toList := by
  simpa using Spells.bare (lead_separate hkey hmem) (List.cons_ne_nil _ _) hquote hvalue

theorem spells_long (hkey : isKey key.toList) :
    Spells keys (switch key true) ("--" ++ key).toList := by
  simpa using Spells.long hkey

theorem spells_short (hkey : isKey key.toList) (hmem : key ∉ keys) :
    Spells keys (switch key true) ("-" ++ key).toList := by
  simpa using Spells.short hkey hmem

end Token

namespace Grammar

open ServiceHost.Token

variable {g : Grammar} {before : String}

/-! ### The directives of a text -/

/-- What a text with a spelling in it yields, if the text before the spelling cannot go on. -/
theorem parse_between {token : Token} {written : String}
    (hclosed : Token.IsClosed (definitionKeys g.registrations) before)
    (h : Spells (definitionKeys g.registrations) token written.toList) (after : String) :
    g.parse (before ++ " " ++ written ++ " " ++ after) = classify g.registrations
      (read (definitionKeys g.registrations) before ++
        token :: read (definitionKeys g.registrations) after) := by
  rw [parse, compiled_eq, parse_compile, h.read_between hclosed]

/-- All spellings of an option yield the same between two texts, namely what the tokens of these
texts yield with that of the option between them, unless the first text ends with a token that goes
on. The spellings are those of a definition with a definition key, by a colon or a blank and with
quotes or, if the value needs none, without them, and those of a switch with any other key, by two
hyphens or one. -/
theorem parse_spellings (hclosed : Token.IsClosed (definitionKeys g.registrations) before)
    (after : String) :
    let keys := definitionKeys g.registrations
    let parsed (written : String) := g.parse (before ++ " " ++ written ++ " " ++ after)
    let yielded (token : Token) :=
      classify g.registrations (read keys before ++ token :: read keys after)
    (∀ key ∈ keys, isKey key.toList → ∀ value : String, '"' ∉ value.toList →
        parsed ("-" ++ key ++ ":" ++ inQuotes value) = yielded (.definition key value) ∧
        parsed ("-" ++ key ++ " " ++ inQuotes value) =
          parsed ("-" ++ key ++ ":" ++ inQuotes value) ∧
        (needsQuotes value = false →
          parsed ("-" ++ key ++ ":" ++ value) = parsed ("-" ++ key ++ ":" ++ inQuotes value) ∧
          parsed ("-" ++ key ++ " " ++ value) = parsed ("-" ++ key ++ ":" ++ inQuotes value))) ∧
      ∀ key, isKey key.toList → key ∉ keys →
        parsed ("--" ++ key) = yielded (.switch key true) ∧
          parsed ("-" ++ key) = parsed ("--" ++ key) := by
  intro keys parsed yielded
  have hspells {token : Token} {written : String} (h : Spells keys token written.toList) :
      parsed written = yielded token := parse_between hclosed h after
  refine ⟨fun key hmem hkey value hquote ↦ ?definition, fun key hkey hmem ↦ ?switch⟩
  case definition =>
    have hinline := hspells (spells_inline_quoted hkey hquote)
    have hseparate := hspells (spells_separate_quoted hkey hmem hquote)
    refine ⟨hinline, hseparate.trans hinline.symm, fun hvalue ↦ ⟨?_, ?_⟩⟩
    · exact (hspells (spells_inline_bare hkey hquote hvalue)).trans hinline.symm
    · exact (hspells (spells_separate_bare hkey hmem hquote hvalue)).trans hinline.symm
  case switch =>
    have hlong := hspells (spells_long hkey)
    exact ⟨hlong, (hspells (spells_short hkey hmem)).trans hlong.symm⟩

/-- The text before ends with a definition key behind two hyphens, and the value looks like a
switch. The text after ends with an unclosed quote. -/
theorem parse_spellings_open_end :
    let g := ofRegistrations [.definition "out", .switch "log"]
    let parsed (written : String) :=
      g.parse ("install -out \"a b\"--out" ++ " " ++ written ++ " " ++ "-instance \"c -log")
    Token.IsClosed (definitionKeys g.registrations) "install -out \"a b\"--out" ∧
      parsed "-out:\"--log\"" = [.mode .install, .customDefinition "out" "a b", .unknown "--out",
        .customDefinition "out" "--log", .instanceName "c -log"] ∧
      parsed "-out \"--log\"" = parsed "-out:\"--log\"" ∧
      parsed "-out:--log" = parsed "-out:\"--log\"" ∧
      parsed "-out --log" = parsed "-out:\"--log\"" ∧ parsed "-log" = parsed "--log" := by
  intro g parsed
  have htokens : Token.tokenize (definitionKeys g.registrations) "install -out \"a b\"--out" =
      [⟨.argument "install", 0, 7⟩, ⟨.definition "out" "a b", 8, 18⟩,
        ⟨.switch "out" true, 18, 23⟩] := by
    decide +kernel
  have hclosed : Token.IsClosed (definitionKeys g.registrations) "install -out \"a b\"--out" := by
    rw [Token.IsClosed, htokens]
    rintro last ⟨⟩
    refine ⟨?_, ?_⟩
    · rintro ⟨make, lead, value, hlead, -, htoken, -⟩
      cases hlead <;> cases htoken
    · rintro ⟨key, -, htoken, hwritten⟩
      cases htoken
      exact absurd hwritten (by decide)
  obtain ⟨hdefinitions, hswitches⟩ := parse_spellings hclosed "-instance \"c -log"
  obtain ⟨hinline, hseparate, hbare⟩ := hdefinitions "out" (by decide) rfl "--log" (by decide)
  obtain ⟨hinlineBare, hseparateBare⟩ := hbare (by decide)
  refine ⟨hclosed, hinline.trans ?_, hseparate, hinlineBare, hseparateBare,
    (hswitches "log" rfl (by decide)).2⟩
  decide +kernel

end Grammar

end ServiceHost
