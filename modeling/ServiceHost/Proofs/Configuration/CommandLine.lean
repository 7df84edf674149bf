import ServiceHost.Configuration.Apply
import ServiceHost.Proofs.Grammar.Classification

/-!
# Command lines that fail

Directives are applied one by one, and an unknown command ends this in the middle. A grammar yields
this directive for the first token only, so that a command line that fails has had no effect before.

## Main definitions

* `Grammar.IsUnknownCommand` : a word that is refused at the beginning of a command line.
* `Directive.unknownCommand?` : the word of an unknown command.

## Main results

* `Grammar.unknownCommand_mem_classify` : only the first token yields an unknown command.
* `Configuration.error?_applyAll` : directives fail at the first unknown command among them.
* `Configuration.applyCommandLine_atomic` : a command line that fails changes nothing.
-/

namespace ServiceHost

open ServiceHost.Text

namespace Grammar

/-! ### The unknown command of an invocation -/

/-- The word is not empty and is no keyword in any letter case. -/
def IsUnknownCommand (word : String) : Prop :=
  word ≠ "" ∧ ∀ keyword ∈ Mode.keywords, sameIgnoringCase keyword.1 word = false

variable {registrations : List Registration} {word : String}

theorem ofKeyword?_eq_none :
    Mode.ofKeyword? word = none ↔
      ∀ keyword ∈ Mode.keywords, sameIgnoringCase keyword.1 word = false := by
  simp [Mode.ofKeyword?]

theorem classifyLeading_eq_unknownCommand {text : String} :
    classifyLeading text = some (.unknownCommand word) ↔ text = word ∧ IsUnknownCommand word := by
  rw [classifyLeading, IsUnknownCommand]
  cases hmode : Mode.ofKeyword? text with
  | some mode =>
    simp only [Option.some.injEq, reduceCtorEq, false_iff]
    rintro ⟨rfl, -, hkeywords⟩
    rw [ofKeyword?_eq_none.mpr hkeywords] at hmode
    cases hmode
  | none =>
    have hkeywords := ofKeyword?_eq_none.mp hmode
    by_cases hempty : text = ""
    · simp only [if_pos hempty, reduceCtorEq, false_iff]
      rintro ⟨rfl, hne, -⟩
      exact hne hempty
    · simp only [if_neg hempty, Option.some.injEq, Directive.unknownCommand.injEq]
      constructor
      · rintro rfl
        exact ⟨rfl, hempty, hkeywords⟩
      · exact And.left

theorem classifySwitch_ne_unknownCommand (key : String) (value : Bool) :
    classifySwitch registrations key value ≠ .unknownCommand word := by
  rw [classifySwitch]
  cases startModeOf? key with
  | some mode => simp
  | none =>
    dsimp only
    split_ifs
    · simp
    · cases registeredSwitch? registrations key <;> simp

theorem classifyDefinition_ne_unknownCommand (key value : String) :
    classifyDefinition registrations key value ≠ .unknownCommand word := by
  rw [classifyDefinition]
  split_ifs <;> simp

/-- Only a leading argument yields an unknown command. -/
theorem classifyToken_eq_unknownCommand {leading : Bool} {token : Token} :
    classifyToken registrations leading token = some (.unknownCommand word) ↔
      leading = true ∧ token = .argument word ∧ IsUnknownCommand word := by
  cases token with
  | argument text => cases leading <;> simp [classifyToken, classifyLeading_eq_unknownCommand]
  | switch key value => simp [classifyToken, classifySwitch_ne_unknownCommand]
  | definition key value => simp [classifyToken, classifyDefinition_ne_unknownCommand]

/-- Only the first token yields an unknown command. -/
theorem unknownCommand_mem_classify {tokens : List Token} :
    .unknownCommand word ∈ classify registrations tokens ↔
      tokens.head? = some (.argument word) ∧ IsUnknownCommand word := by
  cases tokens with
  | nil => simp [classify]
  | cons token tokens => simp [classify, classifyToken_eq_unknownCommand]

/-- The unknown command is the first directive. -/
theorem classify_of_unknownCommand {tokens : List Token} (hword : IsUnknownCommand word) :
    classify registrations (.argument word :: tokens) =
      .unknownCommand word :: tokens.filterMap (classifyToken registrations false) := by
  rw [classify, classifyToken_eq_unknownCommand.mpr ⟨rfl, rfl, hword⟩]
  rfl

/-- Keeping the compiled form registers nothing. -/
@[simp] theorem registrations_prepare (g : Grammar) :
    g.prepare.registrations = g.registrations := by
  rw [prepare]
  split <;> rfl

theorem parse_prepare (g : Grammar) (text : String) :
    g.prepare.parse text = classify g.registrations ((g.tokenize text).map Spanned.value) := by
  rw [parse, tokenize, compiled_eq, compiled_eq, registrations_prepare]
  exact resolve_compile _ _

end Grammar

/-- The word of an unknown command. -/
def Directive.unknownCommand? : Directive → Option String
  | .unknownCommand text => some text
  | _ => none

namespace Configuration

open ServiceHost.Grammar

/-! ### Directives in order -/

/-- Only an unknown command cannot be applied. -/
theorem error?_apply (c : Configuration) (directive : Directive) :
    (c.apply directive).error? = directive.unknownCommand?.map .unknownCommand := by
  cases directive with
  | mode mode =>
    rw [apply]
    split_ifs <;> rfl
  | _ => rfl

/-- Directives fail at the first unknown command among them. -/
theorem error?_applyAll (c : Configuration) (directives : List Directive) :
    (c.applyAll directives).error? =
      (directives.findSome? Directive.unknownCommand?).map .unknownCommand := by
  induction directives generalizing c with
  | nil => rfl
  | cons directive directives ih =>
    have herror := c.error?_apply directive
    rw [applyAll, List.findSome?_cons]
    cases hword : directive.unknownCommand? with
    | none =>
      rw [hword, Option.map_none] at herror
      simp only [herror]
      exact ih _
    | some word =>
      rw [hword, Option.map_some] at herror
      simp only [herror, Option.map_some]

theorem error?_applyAll_eq_none {c : Configuration} {directives : List Directive}
    (h : ∀ word, .unknownCommand word ∉ directives) : (c.applyAll directives).error? = none := by
  rw [error?_applyAll, Option.map_eq_none_iff, List.findSome?_eq_none_iff]
  intro directive hmem
  cases directive with
  | unknownCommand word => exact absurd hmem (h word)
  | _ => rfl

/-- A leading unknown command is all that is applied. -/
theorem applyAll_unknownCommand (c : Configuration) (word : String) (directives : List Directive) :
    c.applyAll (.unknownCommand word :: directives) = ⟨c, [], some (.unknownCommand word)⟩ := rfl

/-! ### The command line -/

/-- A command line that begins with an unknown command fails at once. -/
theorem applyCommandLine_of_unknownCommand {c : Configuration} {text word : String}
    (hhead : (c.grammar.tokenize text).head?.map Spanned.value = some (.argument word))
    (hword : IsUnknownCommand word) :
    c.applyCommandLine text =
      ⟨{ c with grammar := c.grammar.prepare }, [], some (.unknownCommand word)⟩ := by
  rw [← List.head?_map] at hhead
  obtain ⟨tokens, htokens⟩ := List.head?_eq_some_iff.mp hhead
  simp only [applyCommandLine, parse_prepare, htokens, classify_of_unknownCommand hword,
    applyAll_unknownCommand]

/-- Any other command line can be applied. -/
theorem error?_applyCommandLine_eq_none {c : Configuration} {text : String}
    (h : ∀ word, (c.grammar.tokenize text).head?.map Spanned.value = some (.argument word) →
      ¬ IsUnknownCommand word) : (c.applyCommandLine text).error? = none := by
  have hnone : (({ c with grammar := c.grammar.prepare } : Configuration).applyAll
      (c.grammar.prepare.parse text)).error? = none := by
    refine error?_applyAll_eq_none fun word hmem ↦ ?_
    rw [parse_prepare, unknownCommand_mem_classify, List.head?_map] at hmem
    exact h word hmem.1 hmem.2
  simp only [applyCommandLine, hnone]

/-- A command line fails exactly if its first token is an argument that is neither empty nor a
keyword, with this argument as the error. It then has changed nothing but that the compiled form of
the grammar is kept, and nobody has seen anything, so that no handler was called. -/
theorem applyCommandLine_atomic (c : Configuration) (text : String) :
    (∀ error, (c.applyCommandLine text).error? = some error ↔
        ∃ word, (c.grammar.tokenize text).head?.map Spanned.value = some (.argument word) ∧
          IsUnknownCommand word ∧ error = .unknownCommand word) ∧
      ((c.applyCommandLine text).error? ≠ none →
        (c.applyCommandLine text).configuration = { c with grammar := c.grammar.prepare } ∧
          (c.applyCommandLine text).events = []) := by
  by_cases hunknown : ∃ word,
      (c.grammar.tokenize text).head?.map Spanned.value = some (.argument word) ∧
        IsUnknownCommand word
  · obtain ⟨word, hhead, hword⟩ := hunknown
    rw [applyCommandLine_of_unknownCommand hhead hword]
    refine ⟨fun error ↦ ⟨fun herror ↦ ⟨word, hhead, hword, (Option.some.inj herror).symm⟩, ?_⟩,
      fun _ ↦ ⟨rfl, rfl⟩⟩
    rintro ⟨word', hhead', -, rfl⟩
    obtain rfl := Token.argument.inj (Option.some.inj (hhead.symm.trans hhead'))
    rfl
  · have hnone : (c.applyCommandLine text).error? = none :=
      error?_applyCommandLine_eq_none fun word hhead hword ↦ hunknown ⟨word, hhead, hword⟩
    rw [hnone]
    refine ⟨fun error ↦ ⟨nofun, ?_⟩, fun h ↦ absurd rfl h⟩
    rintro ⟨word, hhead, hword, -⟩
    exact absurd ⟨word, hhead, hword⟩ hunknown

end Configuration

end ServiceHost
