import ServiceHost.Proofs.Token.Coverage
import ServiceHost.Proofs.Token.Image
import ServiceHost.Proofs.Token.Rendering

/-!
# Writing tokens of a text and reading them again

The tokens of a text are written in a line and read again, without definition keys. No value stands
in the way of this: a value with a quote was read without quotes, so it has no blank and does not
begin with the quote, and is written as it is. Only an argument can be mistaken, when it is written
without quotes and looks like an option. It is then read as that option, up to its own end, and no
other token is affected. The line is therefore read token by token, and a mistaken argument shows.

## Main definitions

* `Token.reread` : what the written form of a token is read as.

## Main results

* `Token.isRenderable_iff` : the tokens of texts that can be read back.
* `Token.read_renderAll_eq_map` : every token of a line is read again on its own.
* `Token.read_renderAll_read_iff` : the texts whose tokens are all read again.
-/

namespace ServiceHost.Token

open ServiceHost.Text

variable {text : String} {token : Token} {after : List Char}

/-- What the written form of a token is read as without definition keys. An argument without quotes
is read as the token that it looks like. -/
def reread : Token → Token
  | argument text => if needsQuotes text then argument text else ofArgument text
  | token => token

/-! ### Tokens of texts -/

/-- A value that some text has can be read back. -/
theorem IsExpressible.isWritable (h : IsExpressible text) : IsWritable text := by
  rw [IsWritable]
  split_ifs with hneeds
  · rcases h with hquote | ⟨hblank, -⟩
    · exact hquote
    · -- without a blank it needs quotes only if it is empty
      obtain rfl : text = "" := hneeds.resolve_right (by simp [hblank])
      exact List.not_mem_nil
  · rcases h with hquote | ⟨-, hhead⟩
    · exact fun hhead ↦ hquote (List.mem_of_mem_head? hhead)
    · exact hhead

theorem IsRepresentable.isExpressible (h : (argument text).IsRepresentable) :
    IsExpressible text :=
  h.imp_right fun ⟨hblank, hhead, _⟩ ↦ ⟨hblank, hhead⟩

theorem reread_argument_eq_self_iff : (argument text).reread = argument text ↔
    (needsQuotes text = false → ofArgument text = argument text) := by
  rw [reread]
  split_ifs with hneeds <;> simp [hneeds]

/-- A token of a text can be read back exactly if its written form is read as the token itself. -/
theorem isRenderable_iff (h : token.IsRepresentable) :
    token.IsRenderable ↔ token.reread = token := by
  cases token with
  | argument text =>
    rw [isRenderable_argument, and_iff_right h.isExpressible.isWritable,
      reread_argument_eq_self_iff]
  | switch key value => exact iff_of_true h rfl
  | definition key value => exact iff_of_true ⟨h.1, h.2.isWritable⟩ rfl

theorem exists_eq_argument (h : token.reread ≠ token) : ∃ text, token = argument text := by
  cases token with
  | argument text => exact ⟨text, rfl⟩
  | switch key value => exact absurd rfl h
  | definition key value => exact absurd rfl h

/-- A switch or definition of a text can be read back. -/
theorem IsRepresentable.isRenderable (h : token.IsRepresentable)
    (hoption : token.isArgument = false) : token.IsRenderable := by
  rw [isRenderable_iff h]
  by_contra hreread
  obtain ⟨text, rfl⟩ := exists_eq_argument hreread
  cases hoption

/-- The written form of a token that can be read back is read as this one token, which takes all of
it. -/
theorem tokenize_render (keys : List String) (h : token.IsRenderable) :
    tokenize keys token.render = [⟨token, 0, token.render.utf8ByteSize⟩] := by
  have hread : tokenize keys token.render = scan keys 0 token.render.toList :=
    Lexer.iterate_nextToken keys (Cursor.start token.render.toList)
  have hscan := scanToken_render keys h (show closes [] from rfl)
  have hsize := Width.total_eq_utf8ByteSize token.render.toList
  rw [List.append_nil] at hscan
  rw [String.ofList_toList] at hsize
  rw [hread, scan_of_not_closes (closes_render token), hscan]
  dsimp only
  rw [scan_of_blank rfl, hsize, Nat.zero_add]
  rfl

/-! ### A line of tokens -/

/-- The value of a definition that an argument of a text looks like does not begin with a quote. -/
theorem head?_value_ne {key value : String} (h : (argument text).IsRepresentable)
    (htoken : ofArgument text = definition key value) : value.toList.head? ≠ some '"' := by
  obtain ⟨hkey, rfl⟩ := ofArgument_eq_definition.mp htoken
  rcases h with hquote | ⟨-, -, hform⟩
  · refine fun hhead ↦ hquote ?_
    rw [String.toList_append]
    exact List.mem_append_right _ (List.mem_of_mem_head? hhead)
  · exact absurd rfl (hform key value hkey)

/-- The written form of a token of a text is scanned up to its end, whatever it is scanned as. -/
theorem scanToken_render_reread (h : token.IsRepresentable) (hafter : closes after) :
    scanToken [] (token.render.toList ++ after) = (token.reread, after) := by
  by_cases hself : token.reread = token
  · rw [hself]
    exact scanToken_render [] ((isRenderable_iff h).mpr hself) hafter
  · -- only an argument without quotes is read as another token
    obtain ⟨text, rfl⟩ := exists_eq_argument hself
    have hneeds : ¬ needsQuotes text := fun hneeds ↦ hself (if_pos hneeds)
    have hblank := (Bool.or_eq_false_iff.mp (eq_false_of_ne_true hneeds)).2
    have hhead := h.isExpressible.isWritable
    rw [IsWritable, if_neg fun hor ↦ hneeds (needsQuotes_iff.mpr hor)] at hhead
    rw [reread, if_neg hneeds, render, quoteIfNeeded, if_neg hneeds]
    exact scanToken_word hhead (head?_value_ne h) hblank hafter (.inl (separateKey?_nil text))

/-- Every token of a line is read again on its own, as what its written form looks like. -/
theorem read_renderAll_eq_map {tokens : List Token} (h : ∀ token ∈ tokens, token.IsRepresentable) :
    read [] (renderAll tokens) = tokens.map reread := by
  rw [read_eq_scanned, renderAll]
  induction tokens with
  | nil => exact scanned_nil []
  | cons token tokens ih =>
    obtain ⟨htoken, htokens⟩ := List.forall_mem_cons.mp h
    have hscan := scanToken_render_reread htoken (closes_following (tokens.map render))
    rw [List.map_cons, scanned_line_cons (closes_render token) hscan, ih htokens, List.map_cons]

/-- The tokens of a text, whatever the definition keys, are written in a line and read again without
definition keys as the same tokens, exactly if none of them is an argument without blanks that is
not empty and has the form of a switch or a definition. -/
theorem read_renderAll_read_iff (keys : List String) (text : String) :
    read [] (renderAll (read keys text)) = read keys text ↔
      ∀ value, argument value ∈ read keys text → value ≠ "" → hasBlank value = false →
        ∀ key : String, isKey key.toList → value ≠ "-" ++ key ∧ value ≠ "--" ++ key ∧
          ∀ value', value ≠ "-" ++ key ++ ":" ++ value' := by
  have htokens : ∀ token ∈ read keys text, token.IsRepresentable :=
    fun token ↦ isRepresentable_of_mem_read
  have hread := read_renderAll_eq_map htokens
  calc read [] (renderAll (read keys text)) = read keys text
      ↔ (read keys text).map reread = (read keys text).map id := by rw [hread, List.map_id]
    _ ↔ ∀ token ∈ read keys text, token.reread = token := List.map_inj_left
    _ ↔ ∀ value, argument value ∈ read keys text →
          (argument value).reread = argument value := by
      refine ⟨fun h value hmem ↦ h _ hmem, fun h token hmem ↦ ?_⟩
      by_contra hreread
      obtain ⟨value, rfl⟩ := exists_eq_argument hreread
      exact hreread (h value hmem)
    _ ↔ _ := by simp [reread_argument_eq_self_iff, ofArgument_eq_argument, needsQuotes]

-- the value of the key is read again, the argument of the same form is mistaken for a definition
example :
    let tokens := read ["k"] "-k \"-x:y\" \"-x:y\""
    tokens = [.definition "k" "-x:y", .argument "-x:y"] ∧
      read [] (renderAll tokens) = [.definition "k" "-x:y", .definition "x" "y"] := by
  decide +kernel

end ServiceHost.Token
