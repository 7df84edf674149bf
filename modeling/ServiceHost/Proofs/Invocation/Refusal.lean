import ServiceHost.Proofs.Invocation.Join
import ServiceHost.Proofs.Token.Image

/-!
# Refused arguments

`Invocation.join` refuses an argument whose value contains a quote and cannot be written without
quotes around it. There are no escapes, so no text is read as the token of such an argument, if the
value is the one that the token has. But the argument is cut after its first colon also where no key
stands before the colon. It then stands for itself as a whole, and what follows the colon is not its
value. Without blanks such an argument could be written as it is, and it is refused nevertheless if
a quote follows the colon.

## Main definitions

* `Invocation.IsMiscut` : an argument that is cut after a colon although it is no definition.

## Main results

* `Invocation.quote_eq_error_iff` : the arguments that are refused.
* `Invocation.refused_survives_iff` : the refused arguments whose tokens some text has.
-/

namespace ServiceHost.Invocation

open ServiceHost.Text ServiceHost.Token

variable {text : String} {error : ConfigurationError}

/-- The argument begins with a hyphen and contains a colon, but is no definition: no key stands
before the colon. -/
def IsMiscut (text : String) : Prop :=
  text.toList.head? = some '-' ∧ ':' ∈ text.toList ∧
    ¬ ∃ key value : String, isKey key.toList ∧ text = "-" ++ key ++ ":" ++ value

instance (text : String) : Decidable (IsMiscut text) := inferInstanceAs (Decidable (_ ∧ _ ∧ _))

/-! ### What is refused -/

theorem not_isExpressible_iff {value : String} :
    ¬ IsExpressible value ↔
      '"' ∈ value.toList ∧ (hasBlank value ∨ value.toList.head? = some '"') := by
  rw [IsExpressible, not_or, not_not, not_and_or, not_not, Bool.not_eq_false]

/-- An argument is refused if what follows its cut cannot be written as a value. -/
theorem quote_eq_error_iff :
    quote text = .error error ↔
      error = .unquotableArgument text ∧ ¬ IsExpressible (cutKey text).2 := by
  rw [quote]
  generalize cutKey text = cut
  obtain ⟨key, value⟩ := cut
  have hne : '"' ∈ value.toList → value.isEmpty = false := fun hmem ↦ by
    rw [String.isEmpty_eq_false_iff]
    rintro rfl
    cases hmem
  have hrefused : (value.toList.head? = some '"' ∨
      (hasBlank value || (key.isEmpty && value.isEmpty)) ∧ '"' ∈ value.toList) ↔
        ¬ IsExpressible value := by
    rw [not_isExpressible_iff]
    constructor
    · rintro (hhead | ⟨hneeds, hmem⟩)
      · exact ⟨List.mem_of_mem_head? hhead, .inr hhead⟩
      · rw [hne hmem, Bool.and_false, Bool.or_false] at hneeds
        exact ⟨hmem, .inl hneeds⟩
    · rintro ⟨hmem, hblank | hhead⟩
      · exact .inr ⟨by rw [hblank, Bool.true_or], hmem⟩
      · exact .inl hhead
  rw [← hrefused]
  dsimp only
  split_ifs with h
  · exact ⟨fun heq ↦ ⟨(Except.error.inj heq).symm, h⟩, fun herror ↦ by rw [herror.1]⟩
  · exact iff_of_false (fun heq ↦ by cases heq) fun herror ↦ h herror.2
  · exact iff_of_false (fun heq ↦ by cases heq) fun herror ↦ h herror.2

theorem join_singleton (text : String) : join [text] = quote text := by
  cases h : quote text with
  | error error => simp [join, h, bind, Except.bind]
  | ok written => simp [join, h, bind, Except.bind, pure, Except.pure]

/-! ### What a refused argument stands for -/

/-- The value of a definition is what follows its cut, so the definition cannot be written. -/
theorem not_isRepresentable_inline {key : String} (hkey : isKey key.toList) (value : String)
    (h : quote ("-" ++ key ++ ":" ++ value) = .error error) :
    ¬ (ofArgument ("-" ++ key ++ ":" ++ value)).IsRepresentable := by
  have hvalue := (quote_eq_error_iff.mp h).2
  rw [cutKey_colon (colon_notMem_of_isKey hkey)] at hvalue
  rw [ofArgument_inline hkey]
  exact fun hrepresentable ↦ hvalue hrepresentable.2

/-- What follows the cut of an argument is a part of it. -/
theorem quote_mem_of_refused (h : quote text = .error error) : '"' ∈ text.toList := by
  have hquote := (not_isExpressible_iff.mp (quote_eq_error_iff.mp h).2).1
  by_cases hcut : text.toList.head? = some '-' ∧ ':' ∈ text.toList
  · obtain ⟨key, value, hkey, rfl⟩ := exists_first_colon hcut.1 hcut.2
    rw [cutKey_colon hkey] at hquote
    rw [String.toList_append]
    exact List.mem_append_right _ hquote
  · rwa [cutKey_of_not_cut hcut] at hquote

/-- An argument with a quote is no switch. A refused one that is no definition therefore stands for
itself, and can be read if it is cut and contains no blank. -/
theorem isRepresentable_argument_iff (h : quote text = .error error)
    (hinline : ∀ key value : String, isKey key.toList → text ≠ "-" ++ key ++ ":" ++ value) :
    (ofArgument text).IsRepresentable ↔
      (text.toList.head? = some '-' ∧ ':' ∈ text.toList) ∧ hasBlank text = false := by
  have hquote := quote_mem_of_refused h
  have hvalue := (quote_eq_error_iff.mp h).2
  rw [ofArgument_of_quote_mem hquote hinline]
  constructor
  · intro hrepresentable
    obtain ⟨hblank, hhead, -⟩ := hrepresentable.resolve_left (not_not_intro hquote)
    refine ⟨Decidable.byContradiction fun hcut ↦ ?_, hblank⟩
    rw [cutKey_of_not_cut hcut] at hvalue
    exact hvalue (.inr ⟨hblank, hhead⟩)
  · rintro ⟨⟨hhead, -⟩, hblank⟩
    exact .inr ⟨hblank, by rw [hhead]; decide, hinline⟩

/-- Of the refused arguments exactly those stand for a token that can be read which are cut although
they are no definitions, and contain no blank. -/
theorem isRepresentable_refused_iff (h : quote text = .error error) :
    (ofArgument text).IsRepresentable ↔ IsMiscut text ∧ hasBlank text = false := by
  by_cases hform : ∃ key value : String, isKey key.toList ∧ text = "-" ++ key ++ ":" ++ value
  · have hmiscut : ¬ IsMiscut text := fun hmiscut ↦ hmiscut.2.2 hform
    obtain ⟨key, value, hkey, rfl⟩ := hform
    simp only [hmiscut, false_and, not_isRepresentable_inline hkey value h]
  · have hinline : ∀ key value : String, isKey key.toList → text ≠ "-" ++ key ++ ":" ++ value :=
      fun key value hkey htext ↦ hform ⟨key, value, hkey, htext⟩
    rw [isRepresentable_argument_iff h hinline, IsMiscut]
    simp only [hform, not_false_eq_true, and_true]

/-- A refused argument whose token can be read can be written as it is. -/
theorem encodeAll_refused (h : quote text = .error error)
    (hrepresentable : (ofArgument text).IsRepresentable) : encodeAll [ofArgument text] = text := by
  have hquote := quote_mem_of_refused h
  obtain ⟨⟨-, -, hform⟩, -⟩ := (isRepresentable_refused_iff h).mp hrepresentable
  have hinline : ∀ key value : String, isKey key.toList → text ≠ "-" ++ key ++ ":" ++ value :=
    fun key value hkey htext ↦ hform ⟨key, value, hkey, htext⟩
  rw [ofArgument_of_quote_mem hquote hinline, encodeAll, List.map_singleton,
    String.intercalate_singleton, encode, encodeValue, if_pos hquote]

/-- The error of joining one argument names the argument. Some text is read without definition keys
as the token of a refused argument exactly if the argument is cut after a colon although it is no
definition, and contains no blank. The argument itself then is such a text. -/
theorem refused_survives_iff {argument : String} (h : join [argument] = .error error) :
    error = .unquotableArgument argument ∧
      ((∃ text, Token.read [] text = [ofArgument argument]) ↔
        IsMiscut argument ∧ hasBlank argument = false) ∧
      (IsMiscut argument → hasBlank argument = false →
        Token.read [] argument = [ofArgument argument]) := by
  rw [join_singleton] at h
  have hread (hrepresentable : (ofArgument argument).IsRepresentable) :
      Token.read [] argument = [ofArgument argument] := by
    have hall : ∀ token ∈ [ofArgument argument], token.IsRepresentable :=
      List.forall_mem_singleton.mpr hrepresentable
    have htokens := read_encodeAll [] hall
    rwa [encodeAll_refused h hrepresentable] at htokens
  refine ⟨(quote_eq_error_iff.mp h).1, ?_, fun hmiscut hblank ↦ ?_⟩
  · rw [← isRepresentable_refused_iff h]
    refine ⟨?_, fun hrepresentable ↦ ⟨argument, hread hrepresentable⟩⟩
    rintro ⟨text, htext⟩
    exact isRepresentable_of_mem_read (htext ▸ List.mem_singleton_self _)
  · exact hread ((isRepresentable_refused_iff h).mpr ⟨hmiscut, hblank⟩)

/-- With one hyphen the text behind the colon is a value that cannot be written, and with two it
is a part of an argument that can, as long as this contains no blank. -/
theorem refused_survives_iff_hyphens :
    (join ["-x:\"y"] = .error (.unquotableArgument "-x:\"y") ∧
        ¬ ∃ text, Token.read [] text = [ofArgument "-x:\"y"]) ∧
      (join ["--x:\"y"] = .error (.unquotableArgument "--x:\"y") ∧
        ∃ text, Token.read [] text = [ofArgument "--x:\"y"]) ∧
      join ["--x:\"y z"] = .error (.unquotableArgument "--x:\"y z") ∧
        ¬ ∃ text, Token.read [] text = [ofArgument "--x:\"y z"] := by
  have hone : join ["-x:\"y"] = .error (.unquotableArgument "-x:\"y") := by decide
  have htwo : join ["--x:\"y"] = .error (.unquotableArgument "--x:\"y") := by decide
  have hblank : join ["--x:\"y z"] = .error (.unquotableArgument "--x:\"y z") := by decide
  exact ⟨⟨hone, fun h ↦ absurd ((refused_survives_iff hone).2.1.mp h) (by decide)⟩,
    ⟨htwo, (refused_survives_iff htwo).2.1.mpr (by decide)⟩,
    hblank, fun h ↦ absurd ((refused_survives_iff hblank).2.1.mp h) (by decide)⟩

/-- An argument is refused although it is read as it is. -/
theorem refused_survives :
    join ["--x:\"y"] = .error (.unquotableArgument "--x:\"y") ∧
      ofArgument "--x:\"y" = .argument "--x:\"y" ∧
      Token.read [] "--x:\"y" = [.argument "--x:\"y"] :=
  ⟨by decide, by decide, by decide +kernel⟩

end ServiceHost.Invocation
