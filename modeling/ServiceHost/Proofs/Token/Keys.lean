import ServiceHost.Proofs.Token.Lexer
import ServiceHost.Proofs.Token.Word

/-!
# Reading under more definition keys

The scanner consults the definition keys in one place only: at a key behind one hyphen, before
blanks. A key that is added to them can change the token there from a switch to a definition, and
with it everything behind this token. If no switch with an added key is read, nothing changes. In
particular only the set of the keys matters.

## Main results

* `Token.scanToken_of_subset` : a token is scanned alike under more keys.
* `Token.read_of_subset` : a text is read alike under more keys, if none of them is the key of a
  switch in it.
-/

namespace ServiceHost.Token

open ServiceHost.Text

variable {keys more : List String} {chars : List Char}

/-- Two lists of keys that agree on the key at the beginning of the text yield the same. -/
theorem scanAfterKey?_congr {key : String} {after : List Char}
    (h : closes after → (key ∈ more ↔ key ∈ keys)) :
    scanAfterKey? more key after = scanAfterKey? keys key after := by
  by_cases hafter : closes after
  · rw [scanAfterKey?_of_closes hafter, scanAfterKey?_of_closes hafter]
    simp only [h hafter]
  · simp only [scanAfterKey?, hafter]
    rfl

/-- A token is scanned alike under more keys, unless it is a switch with one of them. -/
theorem scanToken_of_subset (hsubset : keys ⊆ more)
    (hswitch : ∀ key ∈ more, (scanToken keys chars).1 = switch key true → key ∈ keys) :
    scanToken more chars = scanToken keys chars := by
  suffices hshort : scanShort? more chars = scanShort? keys chars by
    rw [scanToken, scanToken, hshort]
  by_cases hhead : chars.head? = some '-'
  · obtain ⟨chars, rfl⟩ := List.head?_eq_some_iff.mp hhead
    cases hkey : splitKey? chars with
    | none => rw [scanShort?_of_no_key hkey, scanShort?_of_no_key hkey]
    | some out =>
      obtain ⟨key, after⟩ := out
      rw [scanShort?_of_key hkey, scanShort?_of_key hkey]
      refine scanAfterKey?_congr fun hafter ↦ ⟨fun hmore ↦ ?_, fun hmem ↦ hsubset hmem⟩
      -- an added key would have been scanned as a switch
      by_contra hmem
      obtain ⟨hname, rfl, -⟩ := splitKey?_eq_some.mp hkey
      have hscan := scanToken_short hname hafter (.inl hmem)
      exact hmem (hswitch key hmore (congrArg Prod.fst hscan))
  · rw [scanShort?_of_head_ne hhead, scanShort?_of_head_ne hhead]

theorem scanned_of_subset (hsubset : keys ⊆ more) (chars : List Char)
    (hswitch : ∀ key ∈ more, switch key true ∈ scanned keys chars → key ∈ keys) :
    scanned more chars = scanned keys chars := by
  cases h : chars.dropWhile isBlank with
  | nil => rw [scanned_of_blank h, scanned_of_blank h]
  | cons first following =>
    rw [scanned_of_token h] at hswitch
    have htoken : scanToken more (first :: following) = scanToken keys (first :: following) :=
      scanToken_of_subset hsubset fun key hmem heq ↦ hswitch key hmem (by simp [heq])
    have hfollowing := scanned_of_subset hsubset (scanToken keys (first :: following)).2
      fun key hmem hrest ↦ hswitch key hmem (List.mem_cons_of_mem _ hrest)
    rw [scanned_of_token h, scanned_of_token h, htoken, hfollowing]
termination_by chars.length
decreasing_by exact length_scanToken_lt keys h

/-- A text is read alike under more keys, if none of them is the key of a switch in it. -/
theorem read_of_subset {text : String} (hsubset : keys ⊆ more)
    (hswitch : ∀ key ∈ more, switch key true ∈ read keys text → key ∈ keys) :
    read more text = read keys text := by
  rw [read_eq_scanned] at hswitch
  rw [read_eq_scanned, read_eq_scanned, scanned_of_subset hsubset _ hswitch]

end ServiceHost.Token
