import ServiceHost.Proofs.Configuration.CommandLine

/-!
# The values that directives leave

Directives are applied one by one, and two rules decide what they leave in a configuration. Of the
directives that set a name, the description or the start mode, the last one of each kind counts. Of
those that select a mode, the first one counts, unless a mode was selected before. Since the names
shown to others are derived only when settings are asked for, directives of different kinds may come
in any order.

## Main definitions

* `Directive.Kind`, `Directive.ofKind` : the kinds of directives, and the directives of one kind.
* `Directive.lastValue` : the value of the last directive of a kind.
* `Directive.firstMode?` : the first mode that directives select.
* `Configuration.following` : the configuration with these values.

## Main results

* `Configuration.following_cons` : the effect of one directive and of those after it.
* `Configuration.configuration_applyAll` : the effect of directives in order.
* `Configuration.applyAll_lastValue` : what directives leave, and that only the order within each
  kind matters.
-/

namespace ServiceHost

/-! ### The directives of one kind -/

namespace Directive

/-- The kinds of directives. -/
inductive Kind where
  /-- Selects a mode. -/
  | mode
  /-- Is a leading argument that is no mode keyword. -/
  | unknownCommand
  /-- Names the service. -/
  | serviceName
  /-- Sets the display name. -/
  | displayName
  /-- Names the instance. -/
  | instanceName
  /-- Describes the service. -/
  | description
  /-- Sets the start mode. -/
  | startMode
  /-- Allows a launch with administrator rights. -/
  | allowElevation
  /-- Is a registered switch. -/
  | customSwitch
  /-- Is a registered definition. -/
  | customDefinition
  /-- Is claimed by nothing. -/
  | unknown
  deriving DecidableEq, Repr

/-- The kind of a directive. -/
def kind : Directive → Kind
  | .mode _ => .mode
  | .unknownCommand _ => .unknownCommand
  | .serviceName _ => .serviceName
  | .displayName _ => .displayName
  | .instanceName _ => .instanceName
  | .description _ => .description
  | .startMode _ => .startMode
  | .allowElevation => .allowElevation
  | .customSwitch _ _ => .customSwitch
  | .customDefinition _ _ => .customDefinition
  | .unknown _ => .unknown

/-- The text that a directive sets, as a name or as the description. -/
def text? : Directive → Option String
  | .serviceName text | .displayName text | .instanceName text | .description text => some text
  | _ => none

/-- The start mode that a directive sets. -/
def startMode? : Directive → Option StartMode
  | .startMode chosen => some chosen
  | _ => none

/-- The mode that a directive selects. The unselected mode cannot be selected. -/
def mode? : Directive → Option Mode
  | .mode chosen => if chosen = .unselected then none else some chosen
  | _ => none

/-- The directives of one kind, in their order. -/
def ofKind (kind : Kind) (directives : List Directive) : List Directive :=
  directives.filter fun directive ↦ directive.kind = kind

variable {β : Type} {kind : Kind} {value? : Directive → Option β}

/-- The value of the last directive of a kind, or the given value if there is none. -/
def lastValue (kind : Kind) (value? : Directive → Option β) (directives : List Directive)
    (otherwise : β) : β :=
  ((ofKind kind directives).filterMap value?).getLast?.getD otherwise

/-- The first mode that directives select. -/
def firstMode? (directives : List Directive) : Option Mode :=
  (ofKind .mode directives).findSome? mode?

/-- The value of a directive counts if no directive of its kind comes after it. -/
theorem lastValue_cons (directive : Directive) (directives : List Directive) (otherwise : β) :
    lastValue kind value? (directive :: directives) otherwise =
      lastValue kind value? directives
        (if directive.kind = kind then (value? directive).getD otherwise else otherwise) := by
  rw [lastValue, lastValue, ofKind, List.filter_cons]
  by_cases hkind : directive.kind = kind
  · rw [if_pos (decide_eq_true hkind), if_pos hkind, List.filterMap_cons]
    cases value? directive with
    | none => rfl
    | some value =>
      dsimp only
      rw [List.getLast?_cons]
      rfl
  · rw [if_neg (by simpa using hkind), if_neg hkind]
    rfl

theorem firstMode?_cons (directive : Directive) (directives : List Directive) :
    firstMode? (directive :: directives) = directive.mode?.or (firstMode? directives) := by
  cases directive with
  | mode chosen =>
    have hkind : ofKind .mode (.mode chosen :: directives) =
        .mode chosen :: ofKind .mode directives := rfl
    rw [firstMode?, hkind, List.findSome?_cons]
    cases (Directive.mode chosen).mode? <;> rfl
  | _ => rfl

/-- The mode that is selected first is not the unselected one. -/
theorem firstMode?_ne (directives : List Directive) : firstMode? directives ≠ some .unselected := by
  intro h
  obtain ⟨directive, -, hmode⟩ := List.exists_of_findSome?_eq_some h
  cases directive with
  | mode chosen =>
    obtain ⟨hne, heq⟩ := Option.ite_none_left_eq_some.mp hmode
    exact hne (Option.some.inj heq)
  | _ => cases hmode

/-- Whether a directive occurs depends only on the directives of its kind. -/
theorem mem_congr {directive : Directive} {directives others : List Directive}
    (h : ofKind directive.kind others = ofKind directive.kind directives) :
    directive ∈ others ↔ directive ∈ directives := by
  have hmem (l : List Directive) : directive ∈ ofKind directive.kind l ↔ directive ∈ l := by
    simp [ofKind]
  rw [← hmem, h, hmem]

end Directive

namespace Mode.Selection

/-- The mode that a selection holds, if one was selected. -/
def selected? (s : Selection) : Option Mode := if s.isOpen then none else some s.chosen

/-- A selection is the mode that it holds. -/
theorem getD_selected? (s : Selection) : ⟨s.selected?.getD .unselected⟩ = s := by
  obtain ⟨chosen⟩ := s
  cases chosen <;> rfl

/-- The unselected mode is never selected. -/
theorem selected?_ne (s : Selection) : s.selected? ≠ some .unselected := by
  obtain ⟨chosen⟩ := s
  cases chosen <;> exact nofun

/-- Without a selection the service is run. -/
theorem resolved_getD {mode? : Option Mode} (h : mode? ≠ some .unselected) :
    resolved ⟨mode?.getD .unselected⟩ = mode?.getD .run := by
  cases mode? with
  | none => rfl
  | some chosen =>
    have hopen : isOpen ⟨chosen⟩ = false := beq_eq_false_iff_ne.mpr fun heq ↦ h (congrArg some heq)
    rw [resolved, Option.getD_some, hopen]
    rfl

/-- A mode is selected if none was selected before. -/
theorem selected?_select (s : Selection) (mode : Mode) :
    (s.select mode).selected? = s.selected?.or (Directive.mode mode).mode? := by
  obtain ⟨chosen⟩ := s
  cases chosen <;> cases mode <;> rfl

end Mode.Selection

namespace Configuration

open ServiceHost.Directive

variable {c : Configuration} {directives : List Directive}

/-! ### Directives in order -/

/-- The configuration with the last values of the directives and with the mode that was selected
first. -/
def following (c : Configuration) (directives : List Directive) : Configuration :=
  { c with
    name := lastValue .serviceName text? directives c.name
    displayName := lastValue .displayName text? directives c.displayName
    description := lastValue .description text? directives c.description
    instanceName := lastValue .instanceName text? directives c.instanceName
    startMode := lastValue .startMode startMode? directives c.startMode
    mayElevate := c.mayElevate || directives.contains .allowElevation
    selection := ⟨(c.selection.selected?.or (firstMode? directives)).getD .unselected⟩ }

theorem following_nil (c : Configuration) : c.following [] = c := by
  simp [following, lastValue, firstMode?, ofKind, Mode.Selection.getD_selected?]

/-- A mode that comes too late changes nothing. -/
theorem configuration_apply_mode (c : Configuration) (mode : Mode) :
    (c.apply (.mode mode)).configuration = c.selectMode mode := by
  rw [apply, selectMode, Mode.Selection.select]
  split_ifs <;> rfl

/-- The effect of one directive, and then of those after it. -/
theorem following_cons {directive : Directive} (h : ∀ word, directive ≠ .unknownCommand word)
    (directives : List Directive) :
    (c.apply directive).configuration.following directives =
      c.following (directive :: directives) := by
  cases directive with
  | mode mode =>
    rw [configuration_apply_mode]
    simp only [following, selectMode, Mode.Selection.selected?_select, Option.or_assoc,
      lastValue_cons, firstMode?_cons, List.contains_cons]
    rfl
  | unknownCommand word => exact absurd rfl (h word)
  | allowElevation =>
    simp only [following, apply, lastValue_cons, firstMode?_cons, List.contains_cons]
    simp [mode?, kind]
  | _ =>
    simp only [following, apply, lastValue_cons, firstMode?_cons, List.contains_cons]
    rfl

/-- The effect of directives in order. -/
theorem configuration_applyAll (h : ∀ word, .unknownCommand word ∉ directives) :
    (c.applyAll directives).configuration = c.following directives := by
  induction directives generalizing c with
  | nil => exact c.following_nil.symm
  | cons directive directives ih =>
    simp only [List.mem_cons, not_or] at h
    have herror : (c.apply directive).error? = none := by
      rw [error?_apply]
      cases directive with
      | unknownCommand word => exact absurd rfl (h word).1
      | _ => rfl
    rw [applyAll, herror, ← following_cons fun word heq ↦ (h word).1 heq.symm]
    exact ih fun word ↦ (h word).2

/-! ### The order of directives -/

/-- The values that directives leave depend only on the order within each kind. -/
theorem following_congr {others : List Directive}
    (h : ∀ kind, ofKind kind others = ofKind kind directives) :
    c.following others = c.following directives := by
  have helevation : others.contains .allowElevation = directives.contains .allowElevation :=
    Bool.eq_iff_iff.mpr (by simpa using mem_congr (h _))
  simp only [following, lastValue, firstMode?, helevation, h]

/-- Directives without an unknown command can all be applied. The name, the display name, the
description, the instance and the start mode are then those of the last directive of their kind, and
stay as they were if there is none. Elevation is allowed if it was, or if a directive allows it. The
mode is the one selected before, or else the first one that a directive selects, and the service is
run if there is neither. Nothing else in the configuration changes. Other directives that are the
same within each kind leave the same configuration, however the kinds are mixed. -/
theorem applyAll_lastValue (h : ∀ word, .unknownCommand word ∉ directives) :
    (c.applyAll directives).error? = none ∧
      (c.applyAll directives).configuration =
        { c with
          name := lastValue .serviceName text? directives c.name
          displayName := lastValue .displayName text? directives c.displayName
          description := lastValue .description text? directives c.description
          instanceName := lastValue .instanceName text? directives c.instanceName
          startMode := lastValue .startMode startMode? directives c.startMode
          mayElevate := c.mayElevate || directives.contains .allowElevation
          selection := ⟨(c.selection.selected?.or (firstMode? directives)).getD .unselected⟩ } ∧
      (c.applyAll directives).configuration.mode =
        (c.selection.selected?.or (firstMode? directives)).getD .run ∧
      ∀ others, (∀ kind, ofKind kind others = ofKind kind directives) →
        (c.applyAll others).configuration = (c.applyAll directives).configuration := by
  refine ⟨error?_applyAll_eq_none h, configuration_applyAll h, ?_, fun others hothers ↦ ?_⟩
  · rw [configuration_applyAll h]
    refine Mode.Selection.resolved_getD fun hmode ↦ ?_
    rcases Option.or_eq_some_iff.mp hmode with hselected | ⟨-, hfirst⟩
    · exact c.selection.selected?_ne hselected
    · exact firstMode?_ne directives hfirst
  · have hnone : ∀ word, .unknownCommand word ∉ others := fun word hmem ↦
      h word ((mem_congr (hothers _)).mp hmem)
    rw [configuration_applyAll h, configuration_applyAll hnone, following_congr hothers]

/-- Two directives of a kind, a mode that cannot be selected and a second mode, in two orders. -/
theorem applyAll_lastValue_mixed :
    let c := ofDefaults ⟨"seed", "", "", "1", .manual, 5, 5⟩
    let directives := [.instanceName "7", .mode .unselected, .serviceName "Joe", .mode .stop,
      .instanceName "42", .unknown "--x", .mode .install, .allowElevation]
    let others := [.allowElevation, .mode .unselected, .mode .stop, .mode .install,
      .instanceName "7", .instanceName "42", .unknown "--x", .serviceName "Joe"]
    (c.applyAll directives).configuration.mode = .stop ∧
      (c.applyAll directives).configuration.settings.serviceName = "Joe$42" ∧
      (c.applyAll directives).configuration.startMode = .manual ∧
      (c.applyAll others).configuration = (c.applyAll directives).configuration := by
  intro c directives others
  have hnone : ∀ word, .unknownCommand word ∉ directives := by simp [directives]
  obtain ⟨-, hvalues, hmode, horder⟩ := applyAll_lastValue (c := c) hnone
  refine ⟨hmode, ?_, ?_, horder others ?_⟩
  · rw [hvalues]
    rfl
  · rw [hvalues]
    rfl
  · rintro ⟨⟩ <;> rfl

end Configuration

end ServiceHost
