import Mathlib.Data.List.Induction
import ServiceHost.Proofs.Grammar.Classification
import ServiceHost.Proofs.Token.Rereading

/-!
# Unknown options

A switch or definition that nothing claims is reported by its written form, however it was written.
The report is read back as this one token, by the same grammar: the written form of a switch has two
hyphens and that of a definition a colon, so that no definition key reaches for a value behind it.
The token alone is classified as it was among others, since only arguments depend on their place, so
that the report is what the grammar finds in it.

## Main results

* `Grammar.exists_of_classify_eq` : the token that a directive comes from.
* `Grammar.classifyToken_eq_unknown` : a token that is reported as unknown.
* `Grammar.parse_unknown` : what a report is read as.
-/

namespace ServiceHost.Grammar

open ServiceHost.Token

variable {registrations : List Registration} {g : Grammar} {token : Token} {report : String}

/-! ### The token of a directive -/

/-- The last token is classified as the first one or as one behind others. -/
theorem classify_concat (registrations : List Registration) (tokens : List Token) (token : Token) :
    classify registrations (tokens ++ [token]) = classify registrations tokens ++
      (classifyToken registrations tokens.isEmpty token).toList := by
  cases tokens with
  | nil => simp [classify]
  | cons first tokens =>
    have hlast : [token].filterMap (classifyToken registrations false) =
        (classifyToken registrations false token).toList := by
      cases hdirective : classifyToken registrations false token <;> simp [hdirective]
    rw [List.cons_append, classify, classify, List.filterMap_append, hlast, List.append_assoc]
    rfl

/-- Every directive comes from a token. The tokens before it yield the directives before it. -/
theorem exists_of_classify_eq {tokens : List Token} {before after : List Directive}
    {directive : Directive} (h : classify registrations tokens = before ++ directive :: after) :
    ∃ earlier token later, tokens = earlier ++ token :: later ∧
      classify registrations earlier = before ∧
      classifyToken registrations earlier.isEmpty token = some directive := by
  induction tokens using List.reverseRecOn generalizing after with
  | nil => simp [classify] at h
  | append_singleton tokens last ih =>
    rw [classify_concat] at h
    -- a directive of the tokens before the last one comes from one of these
    have hextend : ∀ {after}, classify registrations tokens = before ++ directive :: after →
        ∃ earlier token later, tokens ++ [last] = earlier ++ token :: later ∧
          classify registrations earlier = before ∧
          classifyToken registrations earlier.isEmpty token = some directive := by
      intro after h
      obtain ⟨earlier, token, later, rfl, hbefore, htoken⟩ := ih h
      exact ⟨earlier, token, later ++ [last], by simp, hbefore, htoken⟩
    cases hlast : classifyToken registrations tokens.isEmpty last with
    | none =>
      rw [hlast, Option.toList_none, List.append_nil] at h
      exact hextend h
    | some found =>
      rw [hlast, Option.toList_some] at h
      rcases List.eq_nil_or_concat' after with rfl | ⟨after, final, rfl⟩
      · obtain ⟨hbefore, hfound⟩ := List.append_inj' h rfl
        obtain rfl := (List.cons.inj hfound).1
        exact ⟨tokens, last, [], rfl, hbefore, hlast⟩
      · rw [← List.cons_append, ← List.append_assoc] at h
        exact hextend (List.append_inj' h rfl).1

/-! ### Tokens that nothing claims -/

theorem classifyLeading_ne_unknown (text : String) :
    classifyLeading text ≠ some (.unknown report) := by
  rw [classifyLeading]
  cases Mode.ofKeyword? text with
  | some mode => simp
  | none => by_cases htext : text = "" <;> simp [htext]

theorem classifySwitch_eq_unknown {key : String} {value : Bool}
    (h : classifySwitch registrations key value = .unknown report) : report = "--" ++ key := by
  rw [classifySwitch] at h
  cases hmode : startModeOf? key with
  | some mode => simp [hmode] at h
  | none =>
    simp only [hmode] at h
    split_ifs at h
    cases hname : registeredSwitch? registrations key with
    | some name => simp [hname] at h
    | none =>
      simp only [hname] at h
      exact (Directive.unknown.inj h).symm

theorem classifyDefinition_eq_unknown {key value : String}
    (h : classifyDefinition registrations key value = .unknown report) :
    report = (Token.definition key value).render := by
  rw [classifyDefinition] at h
  split_ifs at h
  exact (Directive.unknown.inj h).symm

/-- A token that is reported as unknown is a switch or definition, is reported by its written form,
and would be so at any place. -/
theorem classifyToken_eq_unknown {leading : Bool}
    (h : classifyToken registrations leading token = some (.unknown report)) :
    token.isArgument = false ∧ report = token.render ∧
      classifyToken registrations true token = some (.unknown report) := by
  cases token with
  | argument text =>
    cases leading with
    | false => cases h
    | true => exact absurd h (classifyLeading_ne_unknown text)
  | switch key value => exact ⟨rfl, classifySwitch_eq_unknown (Option.some.inj h), h⟩
  | definition key value => exact ⟨rfl, classifyDefinition_eq_unknown (Option.some.inj h), h⟩

/-! ### Reports -/

theorem tokenize_eq (g : Grammar) (text : String) :
    g.tokenize text = Token.tokenize (definitionKeys g.registrations) text := by
  rw [Grammar.tokenize, compiled_eq]
  rfl

theorem resolve_eq_classify (g : Grammar) (tokens : List Token) :
    g.resolve tokens = classify g.registrations tokens := by
  rw [resolve, compiled_eq, resolve_compile]

theorem parse_eq_resolve (g : Grammar) (text : String) :
    g.parse text = g.resolve ((g.tokenize text).map Spanned.value) := rfl

/-- An option that a grammar reports as unknown comes from a switch or definition of the text: the
tokens before it yield the directives before the report, and the report as well together with this
token. The report is the written form of the token. The grammar reads it as this one token, which
takes all of it, and finds nothing but the same report in it. -/
theorem parse_unknown {text : String} {before after : List Directive}
    (h : g.parse text = before ++ .unknown report :: after) :
    ∃ earlier token later, (g.tokenize text).map Spanned.value = earlier ++ token :: later ∧
      g.resolve earlier = before ∧ g.resolve (earlier ++ [token]) = before ++ [.unknown report] ∧
      token.isArgument = false ∧ report = token.render ∧
      g.tokenize report = [⟨token, 0, report.utf8ByteSize⟩] ∧
      g.parse report = [.unknown report] := by
  rw [parse_eq_resolve, resolve_eq_classify] at h
  obtain ⟨earlier, token, later, htokens, hbefore, htoken⟩ := exists_of_classify_eq h
  obtain ⟨hoption, rfl, halone⟩ := classifyToken_eq_unknown htoken
  have hmem : token ∈ read (definitionKeys g.registrations) text := by
    rw [tokenize_eq] at htokens
    rw [Token.read, htokens]
    exact List.mem_append_right _ List.mem_cons_self
  have hread : g.tokenize token.render = [⟨token, 0, token.render.utf8ByteSize⟩] := by
    rw [tokenize_eq]
    exact tokenize_render _ ((isRepresentable_of_mem_read hmem).isRenderable hoption)
  refine ⟨earlier, token, later, htokens, ?_, ?_, hoption, rfl, hread, ?_⟩
  · rw [resolve_eq_classify, hbefore]
  · rw [resolve_eq_classify, classify_concat, hbefore, htoken]
    rfl
  · rw [parse_eq_resolve, resolve_eq_classify, hread, List.map_singleton, classify, halone]
    rfl

/-- A definition with blanks in its value, behind a switch that is reported as well and a definition
that is claimed. -/
theorem parse_unknown_quoted :
    let g := ofRegistrations [.definition "out"]
    let text := "run -x -out \"a b\" -é:\"c d\" --sudo"
    let report := "-é:\"c d\""
    let before : List Directive := [.mode .run, .unknown "--x", .customDefinition "out" "a b"]
    g.parse text = before ++ .unknown report :: [.allowElevation] ∧
      ∃ earlier token later, (g.tokenize text).map Spanned.value = earlier ++ token :: later ∧
        g.resolve earlier = before ∧
        g.resolve (earlier ++ [token]) = before ++ [.unknown report] ∧
        token.isArgument = false ∧ report = token.render ∧
        g.tokenize report = [⟨token, 0, report.utf8ByteSize⟩] ∧
        g.parse report = [.unknown report] := by
  intro g text report before
  have hparse : g.parse text = before ++ .unknown report :: [.allowElevation] := by
    decide +kernel
  exact ⟨hparse, parse_unknown hparse⟩

end ServiceHost.Grammar
