import Mathlib.Data.List.Forall2
import ServiceHost.Proofs.Grammar.Classification
import ServiceHost.Proofs.Token.Image
import ServiceHost.Proofs.Token.Keys

/-!
# Registering one more option

The pattern of a registered option stands behind those of the built-in options and of earlier
registrations, and before the one that reports what nothing claims. It therefore claims only what
was unknown before.

The key of a registered definition is moreover a definition key from then on. What was a switch with
one hyphen and this key takes the value after it, also if a built-in option or an earlier
registration claimed the switch. A text without such a switch is read as before.

## Main definitions

* `Registration.Adopts` : an unknown option and what the registered option makes of it.
* `Registration.Rereads` : a directive before and after the registration.
* `Registration.IsNamedBy` : a token with the name of the registered option.

## Main results

* `Grammar.classifyToken_append` : a token with another name is classified as before.
* `Grammar.rereads_classifyToken` : what is made of a token after the registration.
* `Grammar.parse_register` : what is made of a text after the registration.
-/

namespace ServiceHost

open ServiceHost.Text ServiceHost.Token

namespace Registration

/-! ### What a registered option claims -/

/-- What the registered option makes of an unknown option. -/
inductive Adopts : Registration → Directive → Directive → Prop
  /-- A switch that equals the name up to letter case. -/
  | switch {name key : String} (hname : sameIgnoringCase key name) :
      Adopts (.switch name) (.unknown ("--" ++ key)) (.customSwitch name true)
  /-- A definition with exactly the key. -/
  | definition {key value : String} (htoken : (Token.definition key value).IsRepresentable) :
      Adopts (.definition key) (.unknown (Token.definition key value).render)
        (.customDefinition key value)

/-- What becomes of a directive: the registered option claims it, or else it stays as it is. -/
def Rereads (registration : Registration) (before after : Directive) : Prop :=
  registration.Adopts before after ∨
    after = before ∧ ∀ adopted, ¬ registration.Adopts before adopted

/-- The token is a switch or definition that has the name of the registered option. -/
def IsNamedBy : Registration → Token → Prop
  | .switch name, token => ∃ key value, token = .switch key value ∧ sameIgnoringCase key name
  | .definition key, token => token.key? = some key

variable {registration : Registration} {directive adopted : Directive} {key value : String}

/-- Only an unknown option is claimed. -/
theorem Rereads.of_ne_unknown (h : ∀ text, directive ≠ .unknown text) :
    registration.Rereads directive directive := by
  refine .inr ⟨rfl, ?_⟩
  rintro _ (_ | _) <;> exact h _ rfl

theorem toList_render_definition (key value : String) : (Token.definition key value).render.toList =
    '-' :: (key.toList ++ ':' :: (quoteIfNeeded value).toList) := by
  simp [Token.render]

theorem adopts_unknown_switch :
    registration.Adopts (.unknown ("--" ++ key)) adopted ↔ ∃ name, registration = .switch name ∧
      sameIgnoringCase key name ∧ adopted = .customSwitch name true := by
  constructor
  · intro h
    generalize hbefore : Directive.unknown ("--" ++ key) = before at h
    cases h with
    | @switch name key' hname =>
      obtain rfl : key = key' := (String.append_right_inj "--").mp (Directive.unknown.inj hbefore)
      exact ⟨name, rfl, hname, rfl⟩
    | @definition key' value htoken =>
      -- the key of a definition would begin with the second hyphen
      have hchars := congrArg String.toList (Directive.unknown.inj hbefore)
      rw [toList_render_definition, String.toList_append] at hchars
      have hsplit := splitKey?_colon htoken.1 (quoteIfNeeded value).toList
      rw [← (List.cons.inj hchars).2] at hsplit
      cases hsplit
  · rintro ⟨name, rfl, hname, rfl⟩
    exact .switch hname

theorem adopts_unknown_definition (hkey : isKey key.toList)
    (h : registration.Adopts (.unknown (Token.definition key value).render) adopted) :
    registration = .definition key := by
  have hsplit := splitKey?_colon hkey (quoteIfNeeded value).toList
  generalize hbefore : Directive.unknown (Token.definition key value).render = before at h
  cases h with
  | @switch name key' hname =>
    have hchars := congrArg String.toList (Directive.unknown.inj hbefore)
    rw [toList_render_definition, String.toList_append] at hchars
    rw [(List.cons.inj hchars).2] at hsplit
    cases hsplit
  | @definition key' value' htoken =>
    have hchars := congrArg String.toList (Directive.unknown.inj hbefore)
    rw [toList_render_definition, toList_render_definition] at hchars
    rw [(List.cons.inj hchars).2, splitKey?_colon htoken.1] at hsplit
    rw [(Prod.mk.inj (Option.some.inj hsplit)).1]

end Registration

namespace Grammar

open Registration

variable {registrations : List Registration} {registration : Registration} {token : Token}

/-! ### One token -/

theorem registeredSwitch?_append (registrations : List Registration) (registration : Registration)
    (key : String) : registeredSwitch? (registrations ++ [registration]) key =
      (registeredSwitch? registrations key).or (registeredSwitch? [registration] key) :=
  List.findSome?_append

theorem registeredSwitch?_singleton_switch (name key : String) :
    registeredSwitch? [.switch name] key =
      if sameIgnoringCase key name then some name else none := by
  rw [registeredSwitch?, List.findSome?_singleton]

theorem registeredSwitch?_singleton_definition (name key : String) :
    registeredSwitch? [.definition name] key = none := rfl

/-- A token with another name than the registered option is classified as before. -/
theorem classifyToken_append (h : ¬ registration.IsNamedBy token) (leading : Bool) :
    classifyToken (registrations ++ [registration]) leading token =
      classifyToken registrations leading token := by
  cases token with
  | argument text => rfl
  | switch key value =>
    have hnone : registeredSwitch? [registration] key = none := by
      cases registration with
      | switch name =>
        rw [registeredSwitch?_singleton_switch, if_neg fun hname ↦ h ⟨key, value, rfl, hname⟩]
      | definition name => rfl
    simp only [classifyToken, classifySwitch, registeredSwitch?_append, hnone, Option.or_none]
  | definition key value =>
    have hne : .definition key ≠ registration := by
      rintro rfl
      exact h rfl
    simp only [classifyToken, classifyDefinition, List.mem_append, List.mem_singleton, hne,
      or_false]

theorem rereads_classifySwitch (registrations : List Registration) (registration : Registration)
    (key : String) : registration.Rereads (classifySwitch registrations key true)
      (classifySwitch (registrations ++ [registration]) key true) := by
  simp only [classifySwitch, registeredSwitch?_append]
  cases startModeOf? key with
  | some mode => exact .of_ne_unknown fun _ ↦ Directive.noConfusion
  | none =>
    split_ifs
    · exact .of_ne_unknown fun _ ↦ Directive.noConfusion
    · cases registeredSwitch? registrations key with
      | some name => exact .of_ne_unknown fun _ ↦ Directive.noConfusion
      | none =>
        -- nothing claimed the switch before
        cases registration with
        | switch name =>
          rw [Option.none_or, registeredSwitch?_singleton_switch]
          split_ifs with hname
          · exact .inl (.switch hname)
          · refine .inr ⟨rfl, fun adopted hadopted ↦ ?_⟩
            obtain ⟨_, ⟨rfl⟩, hsame, -⟩ := adopts_unknown_switch.mp hadopted
            exact hname hsame
        | definition name =>
          refine .inr ⟨rfl, fun adopted hadopted ↦ ?_⟩
          obtain ⟨_, ⟨⟩, -⟩ := adopts_unknown_switch.mp hadopted

theorem rereads_classifyDefinition (registrations : List Registration)
    (registration : Registration) {key value : String}
    (h : (Token.definition key value).IsRepresentable) :
    registration.Rereads (classifyDefinition registrations key value)
      (classifyDefinition (registrations ++ [registration]) key value) := by
  simp only [classifyDefinition, List.mem_append, List.mem_singleton]
  split_ifs with _ _ _ _ hbefore hafter hafter
  any_goals exact .of_ne_unknown fun _ ↦ Directive.noConfusion
  · exact absurd (.inl hbefore) hafter
  · obtain rfl := hafter.resolve_left hbefore
    exact .inl (.definition h)
  · refine .inr ⟨rfl, fun adopted hadopted ↦ hafter (.inr ?_)⟩
    exact (adopts_unknown_definition h.1 hadopted).symm

/-- What is made of a token of some text after the registration. -/
theorem rereads_classifyToken (h : token.IsRepresentable) (leading : Bool) :
    Option.Rel registration.Rereads (classifyToken registrations leading token)
      (classifyToken (registrations ++ [registration]) leading token) := by
  cases token with
  | argument text =>
    cases leading with
    | false => exact .none
    | true =>
      simp only [classifyToken, classifyLeading, if_true]
      cases Mode.ofKeyword? text with
      | some mode => exact .some (.of_ne_unknown fun _ ↦ Directive.noConfusion)
      | none =>
        split_ifs
        · exact .none
        · exact .some (.of_ne_unknown fun _ ↦ Directive.noConfusion)
  | switch key value =>
    obtain ⟨rfl, -⟩ := h
    exact .some (rereads_classifySwitch registrations registration key)
  | definition key value =>
    exact .some (rereads_classifyDefinition registrations registration h)

/-! ### The tokens of a text -/

theorem forall₂_toList {R : Directive → Directive → Prop} {before after : Option Directive}
    (h : Option.Rel R before after) : List.Forall₂ R before.toList after.toList := by
  cases h with
  | none => exact .nil
  | some h => exact .cons h .nil

theorem rereads_classify {tokens : List Token} (h : ∀ token ∈ tokens, token.IsRepresentable) :
    List.Forall₂ registration.Rereads (classify registrations tokens)
      (classify (registrations ++ [registration]) tokens) := by
  cases tokens with
  | nil => exact .nil
  | cons token tokens =>
    obtain ⟨hfirst, hrest⟩ := List.forall_mem_cons.mp h
    have hsame : List.Forall₂ (fun a b ↦ a = b ∧ a ∈ tokens) tokens tokens :=
      List.forall₂_same.mpr fun token hmem ↦ ⟨rfl, hmem⟩
    refine List.rel_append (forall₂_toList (rereads_classifyToken hfirst true))
      (List.rel_filterMap ?_ hsame)
    rintro token _ ⟨rfl, hmem⟩
    exact rereads_classifyToken (hrest token hmem) false

theorem classify_congr {more : List Registration} {tokens : List Token}
    (h : ∀ token ∈ tokens, ∀ leading,
      classifyToken more leading token = classifyToken registrations leading token) :
    classify more tokens = classify registrations tokens := by
  cases tokens with
  | nil => rfl
  | cons token tokens =>
    obtain ⟨hfirst, hrest⟩ := List.forall_mem_cons.mp h
    have htokens : tokens.filterMap (classifyToken more false) =
        tokens.filterMap (classifyToken registrations false) :=
      List.filterMap_congr fun token hmem ↦ hrest token hmem false
    rw [classify, classify, hfirst, htokens]

/-! ### The definition keys -/

theorem definitionKeys_append_switch (registrations : List Registration) (name : String) :
    definitionKeys (registrations ++ [.switch name]) = definitionKeys registrations := by
  simp [definitionKeys, definitionKey?]

theorem definitionKeys_append_definition (registrations : List Registration) (key : String) :
    definitionKeys (registrations ++ [.definition key]) =
      definitionKeys registrations ++ [key] := by
  simp [definitionKeys, definitionKey?]

theorem mem_definitionKeys {key : String} : key ∈ definitionKeys registrations ↔
    key ∈ ["servicename", "instance", "displayname", "description"] ∨
      .definition key ∈ registrations := by
  rw [definitionKeys, List.mem_append, List.mem_filterMap]
  refine or_congr Iff.rfl ⟨?_, fun hmem ↦ ⟨_, hmem, rfl⟩⟩
  rintro ⟨_ | _, hmem, hkey⟩ <;> cases hkey
  exact hmem

/-- A definition key that is registered once more claims nothing new. -/
theorem classifyToken_append_known {key : String} (h : key ∈ definitionKeys registrations)
    (leading : Bool) : classifyToken (registrations ++ [.definition key]) leading token =
      classifyToken registrations leading token := by
  by_cases hname : (Registration.definition key).IsNamedBy token
  · cases token with
    | argument text => rfl
    | switch name value =>
      simp only [classifyToken, classifySwitch, registeredSwitch?_append,
        registeredSwitch?_singleton_definition, Option.or_none]
    | definition name value =>
      obtain rfl : name = key := Option.some.inj hname
      simp only [classifyToken, classifyDefinition, List.mem_append, List.mem_singleton, or_true,
        if_true]
      rcases mem_definitionKeys.mp h with hbuiltin | hregistered
      · simp only [List.mem_cons, List.not_mem_nil, or_false] at hbuiltin
        rcases hbuiltin with rfl | rfl | rfl | rfl <;> rfl
      · rw [if_pos hregistered]
  · exact classifyToken_append hname leading

/-- A text is read as before, unless it has a switch whose key becomes a definition key. -/
theorem read_register {text : String}
    (h : ∀ key, registration = .definition key →
      .switch key true ∈ read (definitionKeys registrations) text →
        key ∈ definitionKeys registrations) :
    read (definitionKeys (registrations ++ [registration])) text =
      read (definitionKeys registrations) text := by
  cases registration with
  | switch name => rw [definitionKeys_append_switch]
  | definition key =>
    rw [definitionKeys_append_definition]
    refine read_of_subset (List.subset_append_left _ _) fun name hname hswitch ↦ ?_
    rcases List.mem_append.mp hname with hname | hname
    · exact hname
    · rw [List.mem_singleton] at hname
      subst hname
      exact h name rfl hswitch

/-! ### The directives of a text -/

/-- The directives after a registration, if the text is read as before. -/
theorem parse_register_of_read {g : Grammar} {text : String}
    (h : read (definitionKeys (g.registrations ++ [registration])) text =
      read (definitionKeys g.registrations) text) :
    (g.register registration).parse text = classify (g.registrations ++ [registration])
      (read (definitionKeys g.registrations) text) := by
  rw [← h, parse, compiled_eq]
  exact parse_compile _ text

/-- The directives after a registration, position by position, if the text is read as before. -/
theorem rereads_parse {g : Grammar} {text : String}
    (h : read (definitionKeys (g.registrations ++ [registration])) text =
      read (definitionKeys g.registrations) text) :
    List.Forall₂ registration.Rereads (g.parse text) ((g.register registration).parse text) := by
  rw [parse_register_of_read h, parse, compiled_eq, parse_compile]
  exact rereads_classify fun token hmem ↦ isRepresentable_of_mem_read hmem

theorem parse_register_congr {g : Grammar} {text : String}
    (hread : read (definitionKeys (g.registrations ++ [registration])) text =
      read (definitionKeys g.registrations) text)
    (hclassify : ∀ token ∈ read (definitionKeys g.registrations) text, ∀ leading,
      classifyToken (g.registrations ++ [registration]) leading token =
        classifyToken g.registrations leading token) :
    (g.register registration).parse text = g.parse text := by
  rw [parse_register_of_read hread, parse, compiled_eq, parse_compile, classify_congr hclassify]

/-- One more switch claims only what was unknown before, and so does one more definition, if the
text has no switch with its key. A text without the name of the registered option yields what
it did before, and so does every text if the key of a registered definition is known already. -/
theorem parse_register (g : Grammar) (text : String) :
    (∀ name, List.Forall₂ (Registration.switch name).Rereads (g.parse text)
      ((g.addSwitch name).parse text)) ∧
    (∀ registration : Registration,
      (∀ token ∈ read (definitionKeys g.registrations) text, ¬ registration.IsNamedBy token) →
        (g.register registration).parse text = g.parse text) ∧
    (∀ key, (∀ value, .switch key value ∉ read (definitionKeys g.registrations) text) →
      List.Forall₂ (Registration.definition key).Rereads (g.parse text)
        ((g.addDefinition key).parse text)) ∧
    ∀ key ∈ definitionKeys g.registrations, (g.addDefinition key).parse text = g.parse text := by
  refine ⟨fun name ↦ ?switch, fun registration hname ↦ ?unnamed, fun key hswitch ↦ ?definition,
    fun key hknown ↦ ?known⟩
  case switch => exact rereads_parse (read_register fun key ↦ nofun)
  case unnamed =>
    refine parse_register_congr (read_register ?_) fun token hmem ↦
      classifyToken_append (hname token hmem)
    rintro key rfl hswitch
    exact absurd rfl (hname _ hswitch)
  case definition =>
    refine rereads_parse (read_register ?_)
    rintro _ ⟨⟩ hmem
    exact absurd hmem (hswitch true)
  case known =>
    refine parse_register_congr (read_register ?_) fun token _ ↦
      classifyToken_append_known hknown
    rintro _ ⟨⟩ -
    exact hknown

/-- A definition whose key is in the text in another letter case, one with the key of a definition
in it, and one that is registered already. -/
theorem parse_register_mixed :
    let g := ofRegistrations [.switch "log", .definition "out"]
    let text := "-x:1 --LOG -out a -y b -sudo"
    let before : List Directive := [.unknown "-x:1", .customSwitch "log" true,
      .customDefinition "out" "a", .unknown "--y", .allowElevation]
    (∀ token ∈ read (definitionKeys g.registrations) text,
      ¬ (Registration.definition "Y").IsNamedBy token) ∧
    (∀ value, .switch "x" value ∉ read (definitionKeys g.registrations) text) ∧
    "out" ∈ definitionKeys g.registrations ∧
    (g.addDefinition "Y").parse text = before ∧ (g.addDefinition "out").parse text = before ∧
    List.Forall₂ (Registration.definition "x").Rereads before ((g.addDefinition "x").parse text) ∧
    List.Forall₂ (Registration.switch "Y").Rereads before ((g.addSwitch "Y").parse text) := by
  intro g text before
  have htokens : read (definitionKeys g.registrations) text =
      [.definition "x" "1", .switch "LOG" true, .definition "out" "a", .switch "y" true,
        .argument "b", .switch "sudo" true] := by
    decide +kernel
  have hbefore : g.parse text = before := by decide +kernel
  have hname : ∀ token ∈ read (definitionKeys g.registrations) text,
      ¬ (Registration.definition "Y").IsNamedBy token := by
    rw [htokens]
    simp [IsNamedBy, key?]
  have hswitch : ∀ value, .switch "x" value ∉ read (definitionKeys g.registrations) text := by
    rw [htokens]
    simp
  have hknown : "out" ∈ definitionKeys g.registrations := by decide
  obtain ⟨hswitches, hunnamed, hdefinitions, hkeys⟩ := parse_register g text
  rw [← hbefore]
  exact ⟨hname, hswitch, hknown, hunnamed (.definition "Y") hname, hkeys "out" hknown,
    hdefinitions "x" hswitch, hswitches "Y"⟩

/-- The key of a registered definition makes a switch take the value after it, be it a built-in
switch or one that was registered before. -/
theorem addDefinition_claims_switch :
    let g := ofRegistrations [.switch "log"]
    g.parse "-sudo on -log x" = [.allowElevation, .customSwitch "log" true] ∧
      (g.addDefinition "sudo").parse "-sudo on -log x" =
        [.customDefinition "sudo" "on", .customSwitch "log" true] ∧
      (g.addDefinition "log").parse "-sudo on -log x" =
        [.allowElevation, .customDefinition "log" "x"] := by
  decide +kernel

end Grammar

end ServiceHost
