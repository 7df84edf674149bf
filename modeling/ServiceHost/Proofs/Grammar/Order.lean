import ServiceHost.Proofs.Grammar.Registration
import ServiceHost.Proofs.Grammar.Storage
import ServiceHost.Proofs.Token.Rereading

/-!
# Order of registrations

The patterns of a grammar stand in the order of the registrations, and the first one that matches
claims a token. Two registered options claim the same token only if they are the same definition or
switches that equal each other up to letter case. Among such switches the first one counts.
Otherwise neither order nor repetition shows, since definitions are only ever looked up as members
of the registrations, both as definition keys and when one of them is claimed.

## Main definitions

* `Grammar.IsCaseDistinct` : no two registered switches differ in letter case only.

## Main results

* `Grammar.registeredSwitch?_eq_some_iff` : without such switches, names are looked up as members.
* `Grammar.classifySwitch_eq_iff` : switches that two lists of registrations claim alike.
* `Grammar.parse_built_eq` : what two orders of the same registrations find in all texts.
-/

namespace ServiceHost.Grammar

open ServiceHost.Text ServiceHost.Token

variable {registrations first second : List Registration} {key name : String}

/-- Registered switches that equal each other up to letter case have the same name. -/
def IsCaseDistinct (registrations : List Registration) : Prop :=
  ∀ name other, .switch name ∈ registrations → .switch other ∈ registrations →
    sameIgnoringCase name other → name = other

/-! ### The first of the switches that equal a key -/

theorem sameIgnoringCase_trans {a b c : String} (hab : sameIgnoringCase a b)
    (hbc : sameIgnoringCase b c) : sameIgnoringCase a c := by
  rw [sameIgnoringCase, beq_iff_eq] at *
  exact hab.trans hbc

/-- Where no two switches differ in letter case only, the first one that equals a key is the only
one. -/
theorem registeredSwitch?_eq_some_iff (h : IsCaseDistinct registrations) :
    registeredSwitch? registrations key = some name ↔
      .switch name ∈ registrations ∧ sameIgnoringCase key name := by
  refine ⟨mem_of_registeredSwitch?, fun ⟨hmem, hsame⟩ ↦ ?_⟩
  cases hfound : registeredSwitch? registrations key with
  | none => exact absurd hsame (registeredSwitch?_eq_none_iff.mp hfound name hmem)
  | some other =>
    obtain ⟨hother, hkey⟩ := mem_of_registeredSwitch? hfound
    rw [sameIgnoringCase_comm] at hkey
    rw [h other name hother hmem (sameIgnoringCase_trans hkey hsame)]

/-! ### Tokens -/

theorem forall_builtinSwitches_iff :
    (∀ builtin ∈ builtinSwitches, ¬ sameIgnoringCase key builtin.1) ↔
      startModeOf? key = none ∧ ¬ sameIgnoringCase key "sudo" := by
  rw [startModeOf?]
  simp only [builtinSwitches, List.forall_mem_cons, List.not_mem_nil, false_imp_iff,
    implies_true, and_true]
  split_ifs <;> simp_all

/-- Two lists of registrations classify a switch alike exactly if it is built in or the same
registered switch is the first to equal its key. -/
theorem classifySwitch_eq_iff (value : Bool) :
    classifySwitch first key value = classifySwitch second key value ↔
      ((∀ builtin ∈ builtinSwitches, ¬ sameIgnoringCase key builtin.1) →
        registeredSwitch? first key = registeredSwitch? second key) := by
  rw [forall_builtinSwitches_iff, classifySwitch, classifySwitch]
  cases startModeOf? key with
  | some mode => simp
  | none =>
    by_cases hsudo : sameIgnoringCase key "sudo"
    · simp [hsudo]
    · cases registeredSwitch? first key <;> cases registeredSwitch? second key <;> simp [hsudo]

/-! ### The same options in another order -/

section SameOptions

variable (hsame : ∀ registration, registration ∈ first ↔ registration ∈ second)

include hsame

theorem registeredSwitch?_congr (hdistinct : IsCaseDistinct first) (key : String) :
    registeredSwitch? first key = registeredSwitch? second key := by
  have hdistinct' : IsCaseDistinct second := by
    intro name other hname hother
    rw [← hsame] at hname hother
    exact hdistinct name other hname hother
  ext name
  rw [registeredSwitch?_eq_some_iff hdistinct, registeredSwitch?_eq_some_iff hdistinct', hsame]

theorem classifyDefinition_congr (key value : String) :
    classifyDefinition first key value = classifyDefinition second key value := by
  simp only [classifyDefinition, hsame]

/-- Only the set of the definition keys matters to the tokens of a text. -/
theorem read_congr (text : String) :
    Token.read (definitionKeys first) text = Token.read (definitionKeys second) text := by
  have hkeys : ∀ key, key ∈ definitionKeys first ↔ key ∈ definitionKeys second := by
    intro key
    rw [mem_definitionKeys, mem_definitionKeys, hsame]
  exact read_of_subset (fun key ↦ (hkeys key).mpr) fun key hkey _ ↦ (hkeys key).mp hkey

end SameOptions

/-! ### Texts -/

theorem read_long (keys : List String) (hkey : isKey key.toList) :
    Token.read keys ("--" ++ key) = [.switch key true] := by
  have hrenderable : (Token.switch key true).IsRenderable := ⟨rfl, hkey⟩
  exact congrArg (List.map Spanned.value) (tokenize_render keys hrenderable)

theorem parse_built (registrations : List Registration) (text : String) :
    (built registrations).parse text =
      classify registrations (Token.read (definitionKeys registrations) text) := by
  rw [parse, compiled_built, parse_compile]

/-- If two sequences of registrations find the same in all texts, the same switch is the first to
equal a key. The text with only this switch tells. -/
theorem registeredSwitch?_of_parse_built
    (h : ∀ text, (built first).parse text = (built second).parse text) (hkey : isKey key.toList)
    (hbuiltin : ∀ builtin ∈ builtinSwitches, ¬ sameIgnoringCase key builtin.1) :
    registeredSwitch? first key = registeredSwitch? second key := by
  have hswitch := h ("--" ++ key)
  rw [parse_built, parse_built, read_long _ hkey, read_long _ hkey] at hswitch
  exact (classifySwitch_eq_iff true).mp (List.singleton_inj.mp hswitch) hbuiltin

theorem parse_built_congr (hsame : ∀ registration, registration ∈ first ↔ registration ∈ second)
    (hswitch : ∀ key : String, isKey key.toList →
      (∀ builtin ∈ builtinSwitches, ¬ sameIgnoringCase key builtin.1) →
        registeredSwitch? first key = registeredSwitch? second key) (text : String) :
    (built first).parse text = (built second).parse text := by
  rw [parse_built, parse_built, read_congr hsame]
  refine classify_congr fun token hmem leading ↦ ?_
  have htoken := isRepresentable_of_mem_read hmem
  cases token with
  | argument text => rfl
  | switch key value =>
    exact congrArg some ((classifySwitch_eq_iff value).mpr (hswitch key htoken.2))
  | definition key value => exact congrArg some (classifyDefinition_congr hsame key value)

/-- Two sequences of registrations that register the same options, in any order and with any
repetitions, find the same in every text if no two of the switches differ in letter case only. In
general they find the same in all texts exactly if the same registered switch is the first to equal
each key that is no built-in switch. -/
theorem parse_built_eq (hsame : ∀ registration, registration ∈ first ↔ registration ∈ second) :
    (IsCaseDistinct first → ∀ text, (built first).parse text = (built second).parse text) ∧
    ((∀ text, (built first).parse text = (built second).parse text) ↔
      ∀ key : String, isKey key.toList →
        (∀ builtin ∈ builtinSwitches, ¬ sameIgnoringCase key builtin.1) →
          registeredSwitch? first key = registeredSwitch? second key) := by
  refine ⟨fun hdistinct ↦ parse_built_congr hsame fun key _ _ ↦ ?_,
    fun h _ ↦ registeredSwitch?_of_parse_built h, parse_built_congr hsame⟩
  exact registeredSwitch?_congr hsame hdistinct key

/-- Switches and definitions in another order, one of them registered twice. -/
theorem parse_built_eq_reordered :
    let first : List Registration :=
      [.switch "log", .definition "out", .switch "Trace", .definition "LOG"]
    let second : List Registration :=
      [.definition "LOG", .switch "Trace", .switch "log", .definition "out", .switch "log"]
    (∀ registration, registration ∈ first ↔ registration ∈ second) ∧ IsCaseDistinct first ∧
      ∀ text, (built first).parse text = (built second).parse text := by
  intro first second
  have hsame : ∀ registration, registration ∈ first ↔ registration ∈ second := by
    intro registration
    simp only [first, second, List.mem_cons, List.not_mem_nil, or_false]
    tauto
  have hdistinct : IsCaseDistinct first := by
    intro name other hname hother hcase
    simp only [first, List.mem_cons, Registration.switch.injEq, reduceCtorEq, List.not_mem_nil,
      or_false, false_or] at hname hother
    rcases hname with rfl | rfl <;> rcases hother with rfl | rfl
    · rfl
    · exact absurd hcase (by decide)
    · exact absurd hcase (by decide)
    · rfl
  exact ⟨hsame, hdistinct, (parse_built_eq hsame).1 hdistinct⟩

-- among switches that differ in letter case only the first one counts
example : (built [.switch "log", .switch "LOG"]).parse "--Log" = [.customSwitch "log" true] ∧
    (built [.switch "LOG", .switch "log"]).parse "--Log" = [.customSwitch "LOG" true] := by
  decide +kernel

end ServiceHost.Grammar
