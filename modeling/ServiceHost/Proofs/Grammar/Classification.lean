import Mathlib.Tactic.SplitIfs
import ServiceHost.Grammar
import ServiceHost.Proofs.Pattern.SingleToken

/-!
# Classification of tokens

What a grammar finds in an invocation can be said without patterns. Each token asks for at most
one thing, in the order of the tokens.

* An argument counts only as the first token: as a mode if it is a keyword, and as an unknown
  command if it is not and is not empty.
* A switch counts as the built-in switch, or else as the first registered switch, whose name it
  equals up to letter case.
* A definition counts as the built-in definition, or else as the registered one, with exactly its
  key.
* Every other switch and definition is reported as unknown.

## Main definitions

* `Grammar.classify` : the directives for a list of tokens under given registrations.

## Main results

* `Grammar.claims_compile` : the patterns of a grammar claim a token as it is classified.
* `Grammar.parse_eq_classify` : a grammar finds in every text what the classification says.
-/

namespace ServiceHost.Grammar

open ServiceHost.Parser ServiceHost.Text

/-! ### The classification -/

/-- The start mode that a switch selects. -/
def startModeOf? (key : String) : Option StartMode :=
  if sameIgnoringCase key "autostart" then some .automatic
  else if sameIgnoringCase key "manual" then some .manual
  else if sameIgnoringCase key "disabled" then some .disabled
  else if sameIgnoringCase key "delayed" then some .automaticDelayed
  else none

/-- The name of the first registered switch that equals the key up to letter case. -/
def registeredSwitch? (registrations : List Registration) (key : String) : Option String :=
  registrations.findSome? fun
    | .switch name => if sameIgnoringCase key name then some name else none
    | .definition _ => none

/-- What a switch asks for. -/
def classifySwitch (registrations : List Registration) (key : String) (value : Bool) : Directive :=
  match startModeOf? key with
  | some mode => .startMode mode
  | none =>
    if sameIgnoringCase key "sudo" then .allowElevation
    else match registeredSwitch? registrations key with
      | some name => .customSwitch name value
      | none => .unknown ("--" ++ key)

/-- What a definition asks for. -/
def classifyDefinition (registrations : List Registration) (key value : String) : Directive :=
  if key = "servicename" then .serviceName value
  else if key = "instance" then .instanceName value
  else if key = "displayname" then .displayName value
  else if key = "description" then .description value
  else if .definition key ∈ registrations then .customDefinition key value
  else .unknown (Token.definition key value).render

/-- What an argument asks for as the first token. -/
def classifyLeading (text : String) : Option Directive :=
  match Mode.ofKeyword? text with
  | some mode => some (.mode mode)
  | none => if text = "" then none else some (.unknownCommand text)

/-- What a token asks for, as the first one or behind others. -/
def classifyToken (registrations : List Registration) (leading : Bool) : Token → Option Directive
  | .argument text => if leading then classifyLeading text else none
  | .switch key value => some (classifySwitch registrations key value)
  | .definition key value => some (classifyDefinition registrations key value)

/-- What the tokens of an invocation ask for, in order. -/
def classify (registrations : List Registration) : List Token → List Directive
  | [] => []
  | token :: tokens =>
    (classifyToken registrations true token).toList ++
      tokens.filterMap (classifyToken registrations false)

theorem registeredSwitch?_eq_none_iff {registrations : List Registration} {key : String} :
    registeredSwitch? registrations key = none ↔
      ∀ name, .switch name ∈ registrations → ¬ sameIgnoringCase key name := by
  rw [registeredSwitch?, List.findSome?_eq_none_iff]
  constructor
  · intro h name hmem hsame
    have hnone := h _ hmem
    simp [hsame] at hnone
  · rintro h (name | name) hmem
    · exact if_neg (h name hmem)
    · rfl

/-- The registered switch that a key finds is registered and equals the key. -/
theorem mem_of_registeredSwitch? {registrations : List Registration} {key name : String}
    (h : registeredSwitch? registrations key = some name) :
    .switch name ∈ registrations ∧ sameIgnoringCase key name := by
  obtain ⟨registration, hmem, hfound⟩ := List.exists_of_findSome?_eq_some h
  cases registration with
  | definition _ => cases hfound
  | switch other =>
    obtain ⟨hsame, hname⟩ := Option.ite_none_right_eq_some.mp hfound
    obtain rfl := Option.some.inj hname
    exact ⟨hmem, hsame⟩

/-! ### The claims of the patterns -/

/-- What a parser of any argument yields for a token. -/
def claimArgument : Token → Option String
  | .argument text => some text
  | _ => none

/-- What a parser of the named switch yields for a token. -/
def claimSwitch (name : String) : Token → Option Bool
  | .switch key value => if sameIgnoringCase key name then some value else none
  | _ => none

/-- What a parser of the named definition yields for a token. -/
def claimDefinition (name : String) : Token → Option String
  | .definition key value => if key = name then some value else none
  | _ => none

/-- What the pattern of a registered option yields for a token. -/
def claimRegistered (token : Token) : Registration → Option Directive
  | .switch name => (claimSwitch name token).map (.customSwitch name)
  | .definition key => (claimDefinition key token).map (.customDefinition key)

theorem claims_switchNamed (name : String) :
    (Token.switchNamed name).Claims fun _ ↦ claimSwitch name := by
  refine (((claims_any.filterMap _).filter _).map Prod.snd).congr fun _ token ↦ ?_
  cases token with
  | switch key value => cases hname : sameIgnoringCase key name <;> simp [claimSwitch, hname]
  | argument _ | definition _ _ => rfl

theorem claims_definitionNamed (name : String) :
    (Token.definitionNamed name).Claims fun _ ↦ claimDefinition name := by
  refine (((claims_any.filterMap _).filter _).map Prod.snd).congr fun _ token ↦ ?_
  cases token with
  | definition key value => by_cases hname : key = name <;> simp [claimDefinition, hname]
  | argument _ | switch _ _ => rfl

theorem claims_registration (registration : Registration) :
    registration.pattern.parser.Claims fun _ token ↦ claimRegistered token registration := by
  cases registration with
  | switch name => exact (claims_switchNamed name).map _
  | definition key => exact (claims_definitionNamed key).map _

theorem sameIgnoringCase_comm (a b : String) : sameIgnoringCase a b = sameIgnoringCase b a :=
  Bool.beq_comm

theorem claims_anyArgument : Token.anyArgument.Claims fun _ ↦ claimArgument :=
  (claims_any.filterMap _).congr fun _ token ↦ by cases token <;> rfl

theorem claims_argumentNamed (word : String) : (Token.argumentNamed word).Claims fun _ token ↦
    (claimArgument token).filter fun text ↦ sameIgnoringCase text word :=
  claims_anyArgument.filter fun text ↦ sameIgnoringCase text word

/-- The first keyword that the text is in any letter case selects the mode. -/
theorem findSome?_keywords (text : String) :
    (Mode.keywords.findSome? fun (word, mode) ↦
      ((some text).filter fun text ↦ sameIgnoringCase text word).map fun _ ↦ mode) =
        Mode.ofKeyword? text := by
  rw [Mode.ofKeyword?, List.find?_eq_findSome?_guard, List.map_findSome?]
  refine congrArg (Mode.keywords.findSome? ·) (funext fun keyword ↦ ?_)
  cases hword : sameIgnoringCase text keyword.1 <;>
    simp [Option.guard, Option.filter_some, hword, sameIgnoringCase_comm keyword.1]

theorem claims_keywords (keywords : List (String × Mode)) :
    (firstMatch (keywords.map fun (word, mode) ↦
      (fun _ ↦ mode) <$> Token.argumentNamed word)).Claims fun _ token ↦
        keywords.findSome? fun (word, mode) ↦
          ((claimArgument token).filter fun text ↦ sameIgnoringCase text word).map fun _ ↦ mode :=
  Claims.firstMatch (fun _ ↦ (claims_argumentNamed _).map _) keywords

/-- The leading keyword is read as it is looked up. -/
theorem claims_modePattern : modePattern.parser.Claims fun leading token ↦
    if leading then ((claimArgument token).bind Mode.ofKeyword?).map .mode else none := by
  refine ((claims_keywords Mode.keywords).bind_pure Directive.mode).atStart.congr
    fun leading token ↦ ?_
  cases token with
  | argument text => rw [claimArgument, Option.bind_some, ← findSome?_keywords]
  | switch _ _ | definition _ _ => simp [claimArgument]

theorem claims_unknownCommandPattern :
    unknownCommandPattern.parser.Claims fun leading token ↦
      if leading then ((claimArgument token).filter fun text ↦ !text.isEmpty).map .unknownCommand
      else none := by
  refine ((claims_anyArgument.atStart.filter _).map _).congr fun leading token ↦ ?_
  cases leading <;> rfl

theorem claims_unknownPattern : unknownPattern.parser.Claims fun _ token ↦
    if token.isArgument then none else some (.unknown token.render) := by
  refine ((claims_any.filter _).map _).congr fun _ token ↦ ?_
  cases token <;> rfl

/-! ### The claims together -/

/-- What the built-in options yield for a switch. -/
theorem findSome?_builtin_switch (key : String) (value : Bool) :
    (builtinSwitches.findSome? fun (name, directive) ↦
      (claimSwitch name (.switch key value)).map fun _ ↦ directive) =
        ((startModeOf? key).map .startMode).or
          (if sameIgnoringCase key "sudo" then some .allowElevation else none) := by
  simp only [builtinSwitches, List.findSome?_cons, List.findSome?_nil, claimSwitch, startModeOf?]
  split_ifs <;> rfl

/-- What the built-in options yield for a definition. -/
theorem findSome?_builtin_definition (key value : String) :
    (builtinDefinitions.findSome? fun (name, directive) ↦
      (claimDefinition name (.definition key value)).map directive) =
        if key = "servicename" then some (.serviceName value)
        else if key = "instance" then some (.instanceName value)
        else if key = "displayname" then some (.displayName value)
        else if key = "description" then some (.description value)
        else none := by
  simp only [builtinDefinitions, List.findSome?_cons, List.findSome?_nil, claimDefinition]
  split_ifs <;> rfl

/-- What the registered options yield for a switch. -/
theorem findSome?_registered_switch (registrations : List Registration) (key : String)
    (value : Bool) :
    registrations.findSome? (claimRegistered (.switch key value)) =
      (registeredSwitch? registrations key).map fun name ↦ .customSwitch name value := by
  rw [registeredSwitch?, List.map_findSome?]
  refine congrArg (registrations.findSome? ·) (funext fun registration ↦ ?_)
  cases registration with
  | switch name =>
    cases hname : sameIgnoringCase key name <;> simp [claimRegistered, claimSwitch, hname]
  | definition _ => rfl

/-- What the registered options yield for a definition. -/
theorem findSome?_registered_definition (registrations : List Registration) (key value : String) :
    registrations.findSome? (claimRegistered (.definition key value)) =
      if .definition key ∈ registrations then some (.customDefinition key value) else none := by
  induction registrations with
  | nil => rfl
  | cons registration registrations ih =>
    cases registration with
    | switch name =>
      rw [List.findSome?_cons, ih]
      simp [claimRegistered, claimSwitch]
    | definition name =>
      by_cases hname : key = name <;> simp [claimRegistered, claimDefinition, hname, ih]

theorem findSome?_registered_argument (registrations : List Registration) (text : String) :
    registrations.findSome? (claimRegistered (.argument text)) = none := by
  rw [List.findSome?_eq_none_iff]
  intro registration _
  cases registration <;> rfl

theorem claims_definitions (builtins : List (String × (String → Directive))) :
    (firstMatch (builtins.map fun (key, directive) ↦
      directive <$> Token.definitionNamed key)).Claims fun _ token ↦
        builtins.findSome? fun (key, directive) ↦ (claimDefinition key token).map directive :=
  Claims.firstMatch (fun _ ↦ (claims_definitionNamed _).map _) builtins

theorem claims_switches (builtins : List (String × Directive)) :
    (firstMatch (builtins.map fun (name, directive) ↦
      (fun _ ↦ directive) <$> Token.switchNamed name)).Claims fun _ token ↦
        builtins.findSome? fun (name, directive) ↦ (claimSwitch name token).map fun _ ↦ directive :=
  Claims.firstMatch (fun _ ↦ (claims_switchNamed _).map _) builtins

/-- What the patterns of a grammar yield for a token, in the order in which they are tried. -/
def claimCompiled (registrations : List Registration) (leading : Bool) (token : Token) :
    Option Directive :=
  (((((if leading then ((claimArgument token).bind Mode.ofKeyword?).map .mode else none).or
    (builtinDefinitions.findSome? fun (key, directive) ↦
      (claimDefinition key token).map directive)).or
    (builtinSwitches.findSome? fun (name, directive) ↦
      (claimSwitch name token).map fun _ ↦ directive)).or
    (registrations.findSome? (claimRegistered token))).or
    ((if leading then ((claimArgument token).filter fun text ↦ !text.isEmpty).map .unknownCommand
        else none).or
      ((if token.isArgument then none else some (.unknown token.render)).or none)))

theorem claims_patterns (registrations : List Registration) :
    (firstMatch ((compile registrations).patterns.map Pattern.parser)).Claims
      (claimCompiled registrations) := by
  have hregistered := Claims.firstMatch claims_registration registrations
  have hcatchAll := claims_unknownCommandPattern.firstMatch_cons
    (claims_unknownPattern.firstMatch_cons claims_fail)
  have hpatterns : (compile registrations).patterns.map Pattern.parser =
      modePattern.parser :: (builtinDefinitions.map fun (key, directive) ↦
          directive <$> Token.definitionNamed key) ++
        (builtinSwitches.map fun (name, directive) ↦
          (fun _ ↦ directive) <$> Token.switchNamed name) ++
        (registrations.map fun registration ↦ registration.pattern.parser) ++
        [unknownCommandPattern.parser, unknownPattern.parser] := by
    simp only [compile, builtinPatterns, catchAllPatterns, List.map_append, List.map_cons,
      List.map_map, List.map_nil]
    rfl
  rw [hpatterns]
  exact (((claims_modePattern.firstMatch_cons
    (claims_definitions builtinDefinitions)).firstMatch_append
    (claims_switches builtinSwitches)).firstMatch_append hregistered).firstMatch_append hcatchAll

theorem claimCompiled_argument (registrations : List Registration) (text : String) :
    claimCompiled registrations true (.argument text) = classifyLeading text := by
  have hdefinitions : (builtinDefinitions.findSome? fun (key, directive) ↦
      (claimDefinition key (.argument text)).map directive) = none := rfl
  have hswitches : (builtinSwitches.findSome? fun (name, directive) ↦
      (claimSwitch name (.argument text)).map fun _ ↦ directive) = none := rfl
  have hcommand : ((some text).filter fun text ↦ !text.isEmpty).map Directive.unknownCommand =
      if text = "" then none else some (.unknownCommand text) := by
    by_cases hempty : text = ""
    · subst hempty
      rfl
    · have hnot : text.isEmpty = false := String.isEmpty_eq_false_iff.mpr hempty
      rw [Option.filter_some, hnot, if_neg hempty]
      rfl
  rw [claimCompiled, hdefinitions, hswitches, findSome?_registered_argument]
  simp only [claimArgument, if_true, hcommand, Option.bind_some, Option.or_none, Token.isArgument]
  rw [classifyLeading]
  cases Mode.ofKeyword? text <;> rfl

theorem claimCompiled_switch (registrations : List Registration) (leading : Bool) (key : String)
    (value : Bool) : claimCompiled registrations leading (.switch key value) =
      some (classifySwitch registrations key value) := by
  have hdefinitions : (builtinDefinitions.findSome? fun (name, directive) ↦
      (claimDefinition name (.switch key value)).map directive) = none := rfl
  rw [claimCompiled, hdefinitions, findSome?_builtin_switch, findSome?_registered_switch]
  simp only [claimArgument, Option.bind_none, Option.map_none, Option.filter_none, ite_self,
    Option.none_or, Option.or_none, Token.isArgument, Bool.false_eq_true, if_false]
  rw [classifySwitch]
  cases startModeOf? key with
  | some mode => rfl
  | none =>
    split_ifs
    · rfl
    · cases registeredSwitch? registrations key <;> rfl

theorem claimCompiled_definition (registrations : List Registration) (leading : Bool)
    (key value : String) : claimCompiled registrations leading (.definition key value) =
      some (classifyDefinition registrations key value) := by
  have hswitches : (builtinSwitches.findSome? fun (name, directive) ↦
      (claimSwitch name (.definition key value)).map fun _ ↦ directive) = none := rfl
  rw [claimCompiled, findSome?_builtin_definition, hswitches, findSome?_registered_definition]
  simp only [claimArgument, Option.bind_none, Option.map_none, Option.filter_none, ite_self,
    Option.none_or, Option.or_none, Token.isArgument, Bool.false_eq_true, if_false]
  rw [classifyDefinition]
  split_ifs <;> rfl

/-- The patterns of a grammar claim a token as it is classified. -/
theorem claims_compile (registrations : List Registration) :
    (firstMatch ((compile registrations).patterns.map Pattern.parser)).Claims
      (classifyToken registrations) := by
  refine (claims_patterns registrations).congr fun leading token ↦ ?_
  cases token with
  | argument text =>
    cases leading with
    | true => exact claimCompiled_argument registrations text
    | false =>
      rw [claimCompiled, findSome?_registered_argument]
      rfl
  | switch key value => exact claimCompiled_switch registrations leading key value
  | definition key value => exact claimCompiled_definition registrations leading key value

/-- The patterns of a grammar find in a list of tokens what the classification says. -/
theorem resolve_compile (registrations : List Registration) (tokens : List Token) :
    Pattern.resolve (compile registrations).patterns tokens = classify registrations tokens := by
  cases tokens with
  | nil => exact Pattern.resolveFrom_of_nil rfl
  | cons token tokens => exact Pattern.resolve_eq (claims_compile registrations) token tokens

theorem parse_compile (registrations : List Registration) (text : String) :
    (compile registrations).parse text =
      classify registrations (Token.read (definitionKeys registrations) text) :=
  resolve_compile registrations _

/-- A grammar finds in every text what the classification says of its tokens. -/
theorem parse_eq_classify (g : Grammar) (text : String) :
    g.parse text =
      classify g.registrations (Token.read (definitionKeys g.registrations) text) := by
  rw [parse, compiled_eq, Compiled.parse]
  change Pattern.resolve _ (Token.read (definitionKeys g.registrations) text) = _
  cases Token.read (definitionKeys g.registrations) text with
  | nil => exact Pattern.resolveFrom_of_nil rfl
  | cons token tokens => exact Pattern.resolve_eq (claims_compile g.registrations) token tokens

end ServiceHost.Grammar
