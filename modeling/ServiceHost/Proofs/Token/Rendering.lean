import ServiceHost.Proofs.Token.Lexer
import ServiceHost.Proofs.Token.Line

/-!
# Reading back written tokens

The written form of a token does without escapes, so not every token can be read back from it. A
value survives if no quote can be mistaken for the beginning or the end of it, and an argument
without quotes moreover if it has the form of no switch and no definition. Tokens that survive one
by one also survive in a line, under any definition keys: no written form is a key behind one
hyphen, so none of them reaches for the one after it.

## Main definitions

* `Token.IsWritable` : a text that can be read back as a value.
* `Token.IsRenderable` : a token that can be read back.

## Main results

* `Token.scanToken_render` : the written form of such a token is scanned as the token.
* `Token.read_renderAll` : the written forms of such tokens in a line are read as the tokens.
-/

namespace ServiceHost.Token

open ServiceHost.Text

/-! ### The tokens that survive -/

/-- The text contains no quote if it is empty or contains a blank, and does not begin with one
otherwise. -/
def IsWritable (text : String) : Prop :=
  if text = "" ∨ hasBlank text then '"' ∉ text.toList else text.toList.head? ≠ some '"'

/-- The written form of the token can be told apart from that of any other token. An argument that
is written without quotes must have the form of no switch and no definition. -/
def IsRenderable : Token → Prop
  | argument text => IsWritable text ∧ (text ≠ "" → hasBlank text = false →
      ∀ key : String, isKey key.toList → text ≠ "-" ++ key ∧ text ≠ "--" ++ key ∧
        ∀ value, text ≠ "-" ++ key ++ ":" ++ value)
  | switch key value => value = true ∧ isKey key.toList
  | definition key value => isKey key.toList ∧ IsWritable value

theorem needsQuotes_iff {text : String} : needsQuotes text ↔ text = "" ∨ hasBlank text := by
  simp [needsQuotes]

theorem isRenderable_argument {text : String} :
    (argument text).IsRenderable ↔
      IsWritable text ∧ (needsQuotes text = false → ofArgument text = argument text) := by
  simp [IsRenderable, ofArgument_eq_argument, needsQuotes]

instance (text : String) : Decidable (IsWritable text) :=
  inferInstanceAs (Decidable (if text = "" ∨ hasBlank text then _ else _))

instance : (token : Token) → Decidable token.IsRenderable
  | argument _ => decidable_of_iff _ isRenderable_argument.symm
  | switch _ _ => inferInstanceAs (Decidable (_ ∧ _))
  | definition _ _ => inferInstanceAs (Decidable (_ ∧ _))

/-! ### One token -/

section Render

variable {text : String} {token : Token} {after : List Char}

/-- A text with quotes where it needs them is not empty and begins with no blank. -/
theorem closes_quoteIfNeeded (text : String) : closes (quoteIfNeeded text).toList = false := by
  rw [quoteIfNeeded]
  split_ifs with hneeds
  · simp [inQuotes, closes, isBlank]
  · exact closes_of_not_needsQuotes (by simpa using hneeds)

theorem closes_render (token : Token) : closes token.render.toList = false := by
  cases token with
  | argument text => exact closes_quoteIfNeeded text
  | switch key value => simp [render, closes, isBlank]
  | definition key value => simp [render, closes, isBlank]

/-- A writable text is read back as a value. -/
theorem splitValue_quoteIfNeeded (h : IsWritable text) (hafter : closes after) :
    splitValue ((quoteIfNeeded text).toList ++ after) = (text, after) := by
  simp only [IsWritable, ← needsQuotes_iff] at h
  rw [quoteIfNeeded]
  split_ifs at h ⊢ with hneeds
  · exact splitValue_inQuotes h after
  · rw [Bool.not_eq_true, needsQuotes, Bool.or_eq_false_iff] at hneeds
    exact splitValue_bare h hneeds.2 hafter

/-- A text with quotes where it needs them is scanned as an argument. -/
theorem scanToken_quoteIfNeeded (keys : List String) (h : (argument text).IsRenderable)
    (hafter : closes after) :
    scanToken keys ((quoteIfNeeded text).toList ++ after) =
      scanValue argument ((quoteIfNeeded text).toList ++ after) := by
  obtain ⟨-, hform⟩ := isRenderable_argument.mp h
  rw [quoteIfNeeded]
  split_ifs with hneeds
  · exact scanToken_of_head_ne (by simp [inQuotes])
  · rw [Bool.not_eq_true] at hneeds
    exact scanToken_argument (hform hneeds) (Bool.or_eq_false_iff.mp hneeds).2 hafter

/-- The written form of a token is scanned as the token, before a blank or the end. -/
theorem scanToken_render (keys : List String) (h : token.IsRenderable) (hafter : closes after) :
    scanToken keys (token.render.toList ++ after) = (token, after) := by
  cases token with
  | argument text =>
    rw [render, scanToken_quoteIfNeeded keys h hafter, scanValue,
      splitValue_quoteIfNeeded h.1 hafter]
  | switch key value =>
    obtain ⟨rfl, hkey⟩ := h
    have hchars : (switch key true).render.toList ++ after =
        '-' :: '-' :: (key.toList ++ after) := by simp [render]
    rw [hchars, scanToken_long hkey hafter]
  | definition key value =>
    obtain ⟨hkey, hvalue⟩ := h
    have hchars : (definition key value).render.toList ++ after =
        '-' :: (key.toList ++ ':' :: ((quoteIfNeeded value).toList ++ after)) := by simp [render]
    rw [hchars, scanToken_inline hkey, scanValue, splitValue_quoteIfNeeded hvalue hafter]

end Render

/-! ### A line of tokens -/

theorem scanned_renderAll {keys : List String} {tokens : List Token}
    (h : ∀ token ∈ tokens, token.IsRenderable) :
    scanned keys (renderAll tokens).toList = tokens := by
  rw [renderAll]
  induction tokens with
  | nil => exact scanned_nil keys
  | cons token tokens ih =>
    obtain ⟨htoken, htokens⟩ := List.forall_mem_cons.mp h
    have hscan := scanToken_render keys htoken (closes_following (tokens.map render))
    rw [List.map_cons, scanned_line_cons (closes_render token) hscan, ih htokens]

/-- The written forms of tokens that can be read back, in a line with single spaces between them,
are read as these tokens under any definition keys. -/
theorem read_renderAll {keys : List String} {tokens : List Token}
    (h : ∀ token ∈ tokens, token.IsRenderable) : Token.read keys (renderAll tokens) = tokens := by
  rw [read_eq_scanned, scanned_renderAll h]

/-- Quotes within a word, a definition key, an empty argument and one that looks like an option. -/
theorem read_renderAll_mixed :
    Token.read ["k"] "--k \"two words\" -k:\"-x y\" \"\" -é:a\"b --k:v" =
      [.switch "k" true, .argument "two words", .definition "k" "-x y", .argument "",
        .definition "é" "a\"b", .argument "--k:v"] :=
  @read_renderAll ["k"] [.switch "k" true, .argument "two words", .definition "k" "-x y",
    .argument "", .definition "é" "a\"b", .argument "--k:v"] (by decide)

end ServiceHost.Token
