import Mathlib.Data.List.Basic
import ServiceHost.Proofs.Configuration.CommandLine
import ServiceHost.Proofs.Token.Image

/-!
# Calls of handlers

A registered option is looked up twice. The grammar finds the first registration that claims a
token, a switch in any letter case, and hands on the name under which it was registered. The
configuration then takes the first handler with exactly this name. Both searches end at the same
registration: an earlier handler with the name would belong to an earlier registration, which would
have claimed the token.

## Main definitions

* `RegisteredOption` : an option with the number of its handler, as it is registered.
* `Configuration.Knows` : a configuration that knows the given options and no others.
* `Token.handlerCall?` : the call that a token makes under registered options.

## Main results

* `Configuration.handler?_registeredSwitch?` : both searches for a switch end at the same
  registration.
* `Configuration.applyCommandLine_calls_handlers` : a command line makes the calls of its tokens.
-/

namespace ServiceHost

open ServiceHost.Text

/-- An option that a program registers, with the number of its handler. -/
structure RegisteredOption where
  /-- The switch or definition. -/
  registration : Registration
  /-- The number of its handler. -/
  number : Nat
  deriving DecidableEq, Repr

/-- The event is the call of a handler. -/
def Event.isHandlerCall : Event → Bool
  | switched .. => true
  | defined .. => true
  | _ => false

namespace RegisteredOption

/-- The option is a switch that equals the key up to letter case. -/
def isSwitch (key : String) (option : RegisteredOption) : Bool :=
  match option.registration with
  | .switch name => sameIgnoringCase name key
  | .definition _ => false

/-- The option is the definition with exactly this key. -/
def isDefinition (key : String) (option : RegisteredOption) : Bool :=
  option.registration == .definition key

/-- The handler that a configuration keeps for a switch. -/
def switchHandler? (option : RegisteredOption) : Option Handler :=
  match option.registration with
  | .switch name => some ⟨name, option.number⟩
  | .definition _ => none

/-- The handler that a configuration keeps for a definition. -/
def definitionHandler? (option : RegisteredOption) : Option Handler :=
  match option.registration with
  | .switch _ => none
  | .definition key => some ⟨key, option.number⟩

/-- The number of the handler of the first option with the property. -/
def firstNumber? (options : List RegisteredOption) (property : RegisteredOption → Bool) :
    Option Nat :=
  (options.find? property).map number

end RegisteredOption

open RegisteredOption in
/-- The call that a token makes under options in the order of their registration. A switch that is
no built-in one goes to the first switch that it equals up to letter case, and a definition
that is no built-in one to the first definition with exactly its key. -/
def Token.handlerCall? (options : List RegisteredOption) : Token → Option Event
  | argument _ => none
  | switch key _ =>
    if ["autostart", "manual", "disabled", "delayed", "sudo"].any (sameIgnoringCase key) then none
    else (firstNumber? options (isSwitch key)).map fun number ↦ .switched number true
  | definition key value =>
    if key ∈ ["servicename", "instance", "displayname", "description"] then none
    else (firstNumber? options (isDefinition key)).map fun number ↦ .defined number value

/-- The call that a directive makes under the handlers of switches and of definitions. -/
def Directive.handlerCall? (switches definitions : List Handler) : Directive → Option Event
  | customSwitch name value =>
    (Configuration.handler? switches name).map fun number ↦ .switched number value
  | customDefinition name value =>
    (Configuration.handler? definitions name).map fun number ↦ .defined number value
  | _ => none

namespace Configuration

open ServiceHost.Grammar RegisteredOption

/-! ### Registration -/

/-- Registers an option with its handler. -/
def register (c : Configuration) (option : RegisteredOption) : Configuration :=
  match option.registration with
  | .switch name => c.addSwitch name option.number
  | .definition key => c.addDefinition key option.number

/-- Registers options in order. -/
def registerAll (c : Configuration) (options : List RegisteredOption) : Configuration :=
  options.foldl register c

/-- The configuration knows these options with their handlers, and no others. -/
structure Knows (c : Configuration) (options : List RegisteredOption) : Prop where
  /-- The grammar knows the options in the order of their registration. -/
  registrations_eq : c.grammar.registrations = options.map registration
  /-- The handlers of switches stand in the order of their registration. -/
  switchHandlers_eq : c.switchHandlers = options.filterMap switchHandler?
  /-- The handlers of definitions stand in the order of their registration. -/
  definitionHandlers_eq :
    c.definitionHandlers = options.filterMap definitionHandler?

variable {c : Configuration} {options : List RegisteredOption} {key : String}

theorem Knows.register (h : c.Knows options) (option : RegisteredOption) :
    (c.register option).Knows (options ++ [option]) := by
  obtain ⟨hregistrations, hswitches, hdefinitions⟩ := h
  obtain ⟨registration, number⟩ := option
  cases registration with
  | switch name =>
    refine ⟨?_, ?_, ?_⟩
    · rw [List.map_append, ← hregistrations]
      rfl
    · rw [List.filterMap_append, ← hswitches]
      rfl
    · rw [List.filterMap_append, ← hdefinitions]
      exact (List.append_nil _).symm
  | definition key =>
    refine ⟨?_, ?_, ?_⟩
    · rw [List.map_append, ← hregistrations]
      rfl
    · rw [List.filterMap_append, ← hswitches]
      exact (List.append_nil _).symm
    · rw [List.filterMap_append, ← hdefinitions]
      rfl

theorem Knows.registerAll {following : List RegisteredOption} (h : c.Knows options) :
    (c.registerAll following).Knows (options ++ following) := by
  induction following generalizing c options with
  | nil => rwa [List.append_nil]
  | cons option following ih =>
    rw [← List.singleton_append, ← List.append_assoc]
    exact ih (h.register option)

/-! ### The two searches -/

theorem handler?_cons (name other : String) (number : Nat) (handlers : List Handler) :
    handler? (⟨name, number⟩ :: handlers) other =
      if name = other then some number else handler? handlers other := by
  rw [handler?, List.find?_cons]
  split_ifs with hname
  · rw [beq_iff_eq.mpr hname]
    rfl
  · rw [beq_eq_false_iff_ne.mpr hname]
    rfl

theorem firstNumber?_cons (option : RegisteredOption) (options : List RegisteredOption)
    (property : RegisteredOption → Bool) : firstNumber? (option :: options) property =
      if property option then some option.number else firstNumber? options property := by
  rw [firstNumber?, List.find?_cons]
  cases property option <;> rfl

theorem registeredSwitch?_cons (name key : String) (registrations : List Registration) :
    registeredSwitch? (.switch name :: registrations) key =
      if sameIgnoringCase key name then some name else registeredSwitch? registrations key := by
  rw [registeredSwitch?, List.findSome?_cons]
  by_cases hname : sameIgnoringCase key name
  · simp only [if_pos hname]
  · simp only [if_neg hname]
    rfl

/-- The first registered switch that equals the key and the first handler with its name belong to
the same registration. -/
theorem handler?_registeredSwitch? (options : List RegisteredOption) (key : String) :
    ((registeredSwitch? (options.map registration) key).bind
      (handler? (options.filterMap switchHandler?))) =
        firstNumber? options (isSwitch key) := by
  induction options with
  | nil => rfl
  | cons option options ih =>
    obtain ⟨registration, number⟩ := option
    cases registration with
    | definition other => exact ih
    | switch name =>
      have hhandlers : (RegisteredOption.mk (.switch name) number :: options).filterMap
          switchHandler? =
            ⟨name, number⟩ :: options.filterMap switchHandler? := rfl
      have hswitch : isSwitch key ⟨.switch name, number⟩ = sameIgnoringCase key name :=
        sameIgnoringCase_comm name key
      rw [List.map_cons, registeredSwitch?_cons, hhandlers, firstNumber?_cons, hswitch]
      cases hname : sameIgnoringCase key name with
      | true => rw [if_pos rfl, if_pos rfl, Option.bind_some, handler?_cons, if_pos rfl]
      | false =>
        rw [if_neg Bool.false_ne_true, if_neg Bool.false_ne_true, ← ih]
        refine Option.bind_congr fun other hother ↦ ?_
        -- the earlier handler has another name, for its switch does not equal the key
        have hne : name ≠ other := by
          rintro rfl
          rw [(mem_of_registeredSwitch? hother).2] at hname
          cases hname
        rw [handler?_cons, if_neg hne]

/-- The first handler for a key belongs to the first registered definition with this key. -/
theorem handler?_definitionHandlers (options : List RegisteredOption) (key : String) :
    handler? (options.filterMap definitionHandler?) key =
      firstNumber? options (isDefinition key) := by
  induction options with
  | nil => rfl
  | cons option options ih =>
    obtain ⟨registration, number⟩ := option
    cases registration with
    | switch name => exact ih
    | definition other =>
      have hhandlers : (RegisteredOption.mk (.definition other) number :: options).filterMap
          definitionHandler? =
            ⟨other, number⟩ :: options.filterMap definitionHandler? := rfl
      have hdefinition : isDefinition key ⟨.definition other, number⟩ ↔ other = key := by
        simp [isDefinition]
      rw [hhandlers, handler?_cons, firstNumber?_cons, ih]
      exact (if_congr hdefinition rfl rfl).symm

/-- A definition that is not registered has no handler. -/
theorem firstNumber?_of_notMem (h : .definition key ∉ options.map registration) :
    firstNumber? options (isDefinition key) = none := by
  rw [firstNumber?, Option.map_eq_none_iff, List.find?_eq_none]
  intro option hmem hkey
  exact h (List.mem_map.mpr ⟨option, hmem, beq_iff_eq.mp hkey⟩)

/-! ### The calls of directives -/

/-- Directives register nothing. -/
theorem handlers_apply (c : Configuration) (directive : Directive) :
    (c.apply directive).configuration.switchHandlers = c.switchHandlers ∧
      (c.apply directive).configuration.definitionHandlers = c.definitionHandlers := by
  cases directive with
  | mode mode =>
    rw [apply]
    split_ifs <;> exact ⟨rfl, rfl⟩
  | _ => exact ⟨rfl, rfl⟩

theorem handlerCalls_apply (c : Configuration) (directive : Directive) :
    (c.apply directive).events.filter Event.isHandlerCall =
      (directive.handlerCall? c.switchHandlers c.definitionHandlers).toList := by
  cases directive with
  | mode mode =>
    rw [apply]
    split_ifs <;> rfl
  | customSwitch name value =>
    rw [apply, invokeSwitch, Directive.handlerCall?]
    cases handler? c.switchHandlers name <;> rfl
  | customDefinition name value =>
    rw [apply, invokeDefinition, Directive.handlerCall?]
    cases handler? c.definitionHandlers name <;> rfl
  | _ => rfl

/-- Directives that can all be applied make their calls in order. -/
theorem handlerCalls_applyAll {directives : List Directive}
    (h : (c.applyAll directives).error? = none) :
    (c.applyAll directives).events.filter Event.isHandlerCall =
      directives.filterMap (Directive.handlerCall? c.switchHandlers c.definitionHandlers) := by
  induction directives generalizing c with
  | nil => rfl
  | cons directive directives ih =>
    rw [applyAll] at h ⊢
    cases herror : (c.apply directive).error? with
    | some error =>
      simp only [herror] at h
      cases h
    | none =>
      simp only [herror] at h ⊢
      obtain ⟨hswitches, hdefinitions⟩ := c.handlers_apply directive
      rw [List.filter_append, handlerCalls_apply, ih h, hswitches, hdefinitions]
      cases hcall : directive.handlerCall? c.switchHandlers c.definitionHandlers with
      | none => rw [List.filterMap_cons_none hcall, Option.toList_none, List.nil_append]
      | some call => rw [List.filterMap_cons_some hcall, Option.toList_some, List.singleton_append]

/-! ### The calls of tokens -/

/-- The built-in switches are those for the start mode and for administrator rights. -/
theorem any_builtinSwitch_iff (key : String) :
    ["autostart", "manual", "disabled", "delayed", "sudo"].any (sameIgnoringCase key) ↔
      startModeOf? key ≠ none ∨ sameIgnoringCase key "sudo" := by
  rw [startModeOf?]
  split_ifs <;> simp_all

section Tokens

variable (h : c.Knows options)

include h in
theorem handlerCall?_classifySwitch (key : String) :
    (classifySwitch c.grammar.registrations key true).handlerCall? c.switchHandlers
      c.definitionHandlers = (Token.switch key true).handlerCall? options := by
  rw [classifySwitch, Token.handlerCall?]
  by_cases hbuiltin : ["autostart", "manual", "disabled", "delayed", "sudo"].any
    (sameIgnoringCase key)
  · rw [if_pos hbuiltin]
    rw [any_builtinSwitch_iff] at hbuiltin
    cases hmode : startModeOf? key with
    | some mode => rfl
    | none =>
      simp only [if_pos (hbuiltin.resolve_left (not_not_intro hmode))]
      rfl
  · have hsearch := handler?_registeredSwitch? options key
    rw [← h.registrations_eq, ← h.switchHandlers_eq] at hsearch
    rw [if_neg hbuiltin, ← hsearch]
    rw [any_builtinSwitch_iff, not_or, not_not] at hbuiltin
    rw [hbuiltin.1]
    simp only [if_neg hbuiltin.2]
    cases registeredSwitch? c.grammar.registrations key <;> rfl

include h in
theorem handlerCall?_classifyDefinition (key value : String) :
    (classifyDefinition c.grammar.registrations key value).handlerCall? c.switchHandlers
      c.definitionHandlers = (Token.definition key value).handlerCall? options := by
  have hsearch := handler?_definitionHandlers options key
  rw [← h.definitionHandlers_eq] at hsearch
  rw [classifyDefinition, Token.handlerCall?, ← hsearch]
  by_cases hbuiltin : key ∈ ["servicename", "instance", "displayname", "description"]
  · rw [if_pos hbuiltin]
    simp only [List.mem_cons, List.not_mem_nil, or_false] at hbuiltin
    rcases hbuiltin with rfl | rfl | rfl | rfl <;> rfl
  · rw [if_neg hbuiltin]
    simp only [List.mem_cons, List.not_mem_nil, or_false, not_or] at hbuiltin
    obtain ⟨hname, hinstance, hdisplay, hdescription⟩ := hbuiltin
    rw [if_neg hname, if_neg hinstance, if_neg hdisplay, if_neg hdescription]
    split_ifs with hmem
    · rfl
    · rw [h.registrations_eq] at hmem
      rw [hsearch, firstNumber?_of_notMem hmem]
      rfl

/-- A leading argument calls no handler. -/
theorem handlerCall?_classifyLeading (switches definitions : List Handler) (text : String) :
    (classifyLeading text).bind (Directive.handlerCall? switches definitions) = none := by
  rw [classifyLeading]
  cases Mode.ofKeyword? text with
  | some mode => rfl
  | none =>
    dsimp only
    split_ifs <;> rfl

include h in
/-- What a token asks for calls the handler that the token calls. -/
theorem handlerCall?_classifyToken (leading : Bool) {token : Token}
    (htoken : token.IsRepresentable) :
    (classifyToken c.grammar.registrations leading token).bind
      (Directive.handlerCall? c.switchHandlers c.definitionHandlers) =
        token.handlerCall? options := by
  cases token with
  | argument text =>
    cases leading with
    | true => exact handlerCall?_classifyLeading _ _ text
    | false => rfl
  | switch key value =>
    obtain ⟨rfl, -⟩ := htoken
    exact handlerCall?_classifySwitch h key
  | definition key value => exact handlerCall?_classifyDefinition h key value

include h in
theorem handlerCalls_classify {tokens : List Token}
    (htokens : ∀ token ∈ tokens, token.IsRepresentable) :
    (classify c.grammar.registrations tokens).filterMap
      (Directive.handlerCall? c.switchHandlers c.definitionHandlers) =
        tokens.filterMap (Token.handlerCall? options) := by
  cases tokens with
  | nil => rfl
  | cons token tokens =>
    obtain ⟨htoken, htokens⟩ := List.forall_mem_cons.mp htokens
    have hfirst := handlerCall?_classifyToken h true htoken
    have hrest : (tokens.filterMap (classifyToken c.grammar.registrations false)).filterMap
        (Directive.handlerCall? c.switchHandlers c.definitionHandlers) =
          tokens.filterMap (Token.handlerCall? options) := by
      rw [List.filterMap_filterMap]
      exact List.filterMap_congr fun token hmem ↦
        handlerCall?_classifyToken h false (htokens token hmem)
    rw [classify, List.filterMap_append, hrest, List.filterMap_cons, ← hfirst]
    cases classifyToken c.grammar.registrations true token with
    | none => rfl
    | some directive =>
      cases hcall : directive.handlerCall? c.switchHandlers c.definitionHandlers <;> simp [hcall]

end Tokens

/-! ### The calls of a command line -/

/-- A command line that can be applied makes the calls of its tokens, in their order and no
others. -/
theorem Knows.handlerCalls_applyCommandLine {text : String} (h : c.Knows options)
    (hok : (c.applyCommandLine text).error? = none) :
    (c.applyCommandLine text).events.filter Event.isHandlerCall =
      ((c.grammar.tokenize text).map Spanned.value).filterMap (Token.handlerCall? options) := by
  have hrepresentable : ∀ token ∈ (c.grammar.tokenize text).map Spanned.value,
      token.IsRepresentable := fun token hmem ↦ Token.isRepresentable_of_mem_read hmem
  rw [← handlerCalls_classify h hrepresentable, ← parse_prepare]
  simp only [applyCommandLine] at hok ⊢
  cases herror : (({ c with grammar := c.grammar.prepare } : Configuration).applyAll
      (c.grammar.prepare.parse text)).error? with
  | some error =>
    simp only [herror] at hok
    cases hok
  | none =>
    rw [List.filter_append, handlerCalls_applyAll herror]
    exact List.append_nil _

/-- Options are registered in a configuration that knows none. A command line that can then be
applied makes exactly the calls of its tokens, in their order: a switch calls the handler of the
first switch that it equals up to letter case, a definition that of the first definition with its
key, and built-in options call no handler. -/
theorem applyCommandLine_calls_handlers {c : Configuration} {options : List RegisteredOption}
    {text : String} (hc : c.Knows [])
    (hok : ((c.registerAll options).applyCommandLine text).error? = none) :
    ((c.registerAll options).applyCommandLine text).events.filter Event.isHandlerCall =
      (((c.registerAll options).grammar.tokenize text).map Spanned.value).filterMap
        (Token.handlerCall? options) :=
  hc.registerAll.handlerCalls_applyCommandLine hok

/-- Names that differ in letter case, a key registered twice, and names of built-in options. -/
theorem applyCommandLine_calls_first_handlers :
    let options : List RegisteredOption := [⟨.switch "Log", 0⟩, ⟨.definition "k", 1⟩,
      ⟨.switch "log", 2⟩, ⟨.switch "sudo", 3⟩, ⟨.definition "sudo", 4⟩, ⟨.definition "k", 5⟩]
    let applied := (registerAll {} options).applyCommandLine "--log -K:v --SUDO -k v -sudo:x"
    applied.error? = none ∧ applied.events.filter Event.isHandlerCall =
      [.switched 0 true, .defined 1 "v", .defined 4 "x"] := by
  intro options applied
  have htokens : ((registerAll {} options).grammar.tokenize
      "--log -K:v --SUDO -k v -sudo:x").map Spanned.value =
        [.switch "log" true, .definition "K" "v", .switch "SUDO" true, .definition "k" "v",
          .definition "sudo" "x"] := by
    decide +kernel
  have hok : applied.error? = none := error?_applyCommandLine_eq_none fun word hhead ↦ by
    rw [← List.head?_map, htokens] at hhead
    cases hhead
  refine ⟨hok, (applyCommandLine_calls_handlers ⟨rfl, rfl, rfl⟩ hok).trans ?_⟩
  rw [htokens]
  decide

end Configuration

end ServiceHost
