import Mathlib.Data.List.Induction
import ServiceHost.Proofs.Configuration.CommandLine

/-!
# Grammars that remember their compiled form

The compiled form of a grammar is put into a cell when it is first needed, and later questions are
answered from the cell, whatever it holds. A registration empties the cell, and a copy of a grammar
takes the content along. Here the cell may hold anything, and grammars are used in any order, each
as often as one likes. A grammar is never found with a compiled form that is not its own, so that
nobody can tell whether the form was remembered.

A grammar may be stored in several ways, and a history of commands means the same for all of them.
What one way of storing grammars shows of another is proved for single operations, and holds for
histories by induction.

## Main definitions

* `Grammar.Storage` : a way to store grammars.
* `Grammar.Storage.run` : the answers to a history of commands, and the grammars after it.
* `Grammar.Cell` : a grammar with a cell that may hold any compiled form.
* `Grammar.Storage.IsView` : one way to store grammars gives the same answers as another.

## Main results

* `Grammar.Storage.IsView.run_eq` : the answers are the same after every history.
* `Grammar.Storage.run_cell` : a cell is empty or holds what the registrations compile to, and the
  answers are those of grammars that are built anew for each question.
-/

namespace ServiceHost.Grammar

/-! ### Histories -/

/-- What is asked of a grammar. -/
inductive Operation where
  /-- Register one more option. -/
  | register (registration : Registration)
  /-- Tell the definition keys. -/
  | definitionKeys
  /-- Tell the keys with which texts are cut into tokens. -/
  | readingKeys
  /-- Tell the patterns in the order in which they are tried. -/
  | patterns
  /-- Find the directives of a text. -/
  | parse (text : String)

/-- What a grammar answers. -/
inductive Answer where
  | done
  | keys (keys : List String)
  | patterns (patterns : List (Pattern Directive))
  | directives (directives : List Directive)

/-- A command to one of several grammars, which are known by their numbers. -/
inductive Command where
  /-- Ask something of a grammar. -/
  | ask (number : Nat) (operation : Operation)
  /-- Copy a grammar. The copy has the next number. -/
  | copy (number : Nat)

/-- A way to store grammars. The stored form may change when the compiled form is needed. -/
structure Storage (σ : Type) where
  /-- Registers one more option. -/
  register : σ → Registration → σ
  /-- The definition keys. -/
  definitionKeys : σ → List String
  /-- The compiled form, and what is stored after it was needed. -/
  compiled : σ → Compiled × σ

namespace Storage

variable {σ τ : Type}

/-- The answer of a grammar, and what is stored of it afterwards. To find directives, the compiled
form is needed for the tokens first and for the patterns then. -/
def perform (storage : Storage σ) (s : σ) : Operation → Answer × σ
  | .register registration => (.done, storage.register s registration)
  | .definitionKeys => (.keys (storage.definitionKeys s), s)
  | .readingKeys => (.keys (storage.compiled s).1.keys, (storage.compiled s).2)
  | .patterns => (.patterns (storage.compiled s).1.patterns, (storage.compiled s).2)
  | .parse text =>
    let reading := storage.compiled s
    let resolving := storage.compiled reading.2
    (.directives (Pattern.resolve resolving.1.patterns (Token.read reading.1.keys text)),
      resolving.2)

/-- The answer to a command, and the grammars after it. No grammar answers to an unused number. -/
def step (storage : Storage σ) (grammars : List σ) : Command → Option Answer × List σ
  | .ask number operation =>
    match grammars[number]? with
    | some s =>
      let performed := storage.perform s operation
      (some performed.1, grammars.set number performed.2)
    | none => (none, grammars)
  | .copy number => (none, grammars ++ grammars[number]?.toList)

/-- The answers to a history of commands, and the grammars after it. -/
def run (storage : Storage σ) (grammars : List σ) : List Command → List (Option Answer) × List σ
  | [] => ([], grammars)
  | command :: commands =>
    let stepped := storage.step grammars command
    let following := storage.run stepped.2 commands
    (stepped.1 :: following.1, following.2)

/-! ### Views -/

/-- Grammars that are stored one way and obey an invariant look like grammars that are stored
another way: they answer in the same way, and change into grammars with these properties. -/
structure IsView (storage : Storage σ) (other : Storage τ) (IsSound : σ → Prop) (view : σ → τ) :
    Prop where
  /-- The invariant is kept by a registration. -/
  isSound_register : ∀ {s}, IsSound s → ∀ registration,
    IsSound (storage.register s registration)
  /-- A registration looks like a registration. -/
  view_register : ∀ {s}, IsSound s → ∀ registration,
    view (storage.register s registration) = other.register (view s) registration
  /-- The definition keys are the same. -/
  definitionKeys_eq : ∀ {s}, IsSound s → storage.definitionKeys s = other.definitionKeys (view s)
  /-- The compiled form is the same. -/
  compiled_eq : ∀ {s}, IsSound s → (storage.compiled s).1 = (other.compiled (view s)).1
  /-- The invariant is kept when the compiled form is needed. -/
  isSound_compiled : ∀ {s}, IsSound s → IsSound (storage.compiled s).2
  /-- What is stored when the compiled form is needed looks the same. -/
  view_compiled : ∀ {s}, IsSound s → view (storage.compiled s).2 = (other.compiled (view s)).2

namespace IsView

variable {storage : Storage σ} {other : Storage τ} {IsSound : σ → Prop} {view : σ → τ} {s : σ}
  {grammars : List σ}

theorem perform_eq (h : storage.IsView other IsSound view) (hs : IsSound s)
    (operation : Operation) :
    (storage.perform s operation).1 = (other.perform (view s) operation).1 ∧
      IsSound (storage.perform s operation).2 ∧
      view (storage.perform s operation).2 = (other.perform (view s) operation).2 := by
  cases operation with
  | register registration =>
    exact ⟨rfl, h.isSound_register hs registration, h.view_register hs registration⟩
  | definitionKeys => exact ⟨congrArg Answer.keys (h.definitionKeys_eq hs), hs, rfl⟩
  | readingKeys =>
    refine ⟨?_, h.isSound_compiled hs, h.view_compiled hs⟩
    rw [perform, perform, h.compiled_eq hs]
  | patterns =>
    refine ⟨?_, h.isSound_compiled hs, h.view_compiled hs⟩
    rw [perform, perform, h.compiled_eq hs]
  | parse text =>
    -- the second look finds what the first one left
    have hreading := h.isSound_compiled hs
    have hview := h.view_compiled hs
    refine ⟨?_, h.isSound_compiled hreading, (h.view_compiled hreading).trans ?_⟩
    · simp only [perform, h.compiled_eq hs, h.compiled_eq hreading, hview]
    · rw [hview]
      rfl

theorem step_eq (h : storage.IsView other IsSound view) (hgrammars : ∀ s ∈ grammars, IsSound s)
    (command : Command) :
    (storage.step grammars command).1 = (other.step (grammars.map view) command).1 ∧
      (∀ s ∈ (storage.step grammars command).2, IsSound s) ∧
      (storage.step grammars command).2.map view =
        (other.step (grammars.map view) command).2 := by
  cases command with
  | ask number operation =>
    simp only [step, List.getElem?_map]
    cases hfound : grammars[number]? with
    | none => exact ⟨rfl, hgrammars, rfl⟩
    | some s =>
      obtain ⟨hanswer, hsound, hview⟩ :=
        h.perform_eq (hgrammars s (List.mem_of_getElem? hfound)) operation
      refine ⟨congrArg some hanswer, fun s' hmem ↦ ?_, ?_⟩
      · rcases List.mem_or_eq_of_mem_set hmem with hmem | rfl
        · exact hgrammars s' hmem
        · exact hsound
      · rw [List.map_set, hview]
        rfl
  | copy number =>
    refine ⟨rfl, fun s hmem ↦ ?_, ?_⟩
    · rcases List.mem_append.mp hmem with hmem | hmem
      · exact hgrammars s hmem
      · exact hgrammars s (List.mem_of_getElem? (Option.mem_toList.mp hmem))
    · simp only [step, List.map_append, List.getElem?_map]
      cases grammars[number]? <;> rfl

/-- The answers are the same after every history, and the invariant holds throughout. -/
theorem run_eq (h : storage.IsView other IsSound view) (hgrammars : ∀ s ∈ grammars, IsSound s)
    (commands : List Command) :
    (storage.run grammars commands).1 = (other.run (grammars.map view) commands).1 ∧
      (∀ s ∈ (storage.run grammars commands).2, IsSound s) ∧
      (storage.run grammars commands).2.map view =
        (other.run (grammars.map view) commands).2 := by
  induction commands generalizing grammars with
  | nil => exact ⟨rfl, hgrammars, rfl⟩
  | cons command commands ih =>
    obtain ⟨hanswer, hsound, hview⟩ := h.step_eq hgrammars command
    obtain ⟨hanswers, hfollowing, hviews⟩ := ih hsound
    rw [hview] at hanswers hviews
    exact ⟨congrArg₂ List.cons hanswer hanswers, hfollowing, hviews⟩

end IsView

end Storage

/-! ### Cells -/

/-- A grammar with a cell for its compiled form. The cell may hold anything. -/
structure Cell where
  /-- The registered options in the order of their registration. -/
  registrations : List Registration
  /-- What the cell holds. -/
  content : Option Compiled

namespace Cell

/-- A grammar without registrations. Its cell is empty. -/
def new : Cell := ⟨[], none⟩

/-- Registers one more option and empties the cell. -/
def register (cell : Cell) (registration : Registration) : Cell :=
  ⟨cell.registrations ++ [registration], none⟩

/-- What the cell holds. An empty cell is filled first. -/
def force (cell : Cell) : Compiled × Cell :=
  match cell.content with
  | some compiled => (compiled, cell)
  | none =>
    let compiled := compile cell.registrations
    (compiled, ⟨cell.registrations, some compiled⟩)

/-- The cell is empty or holds what the registrations compile to. -/
def IsCoherent (cell : Cell) : Prop :=
  cell.content = none ∨ cell.content = some (compile cell.registrations)

variable {cell : Cell}

theorem isCoherent_new : new.IsCoherent := .inl rfl

theorem isCoherent_register (cell : Cell) (registration : Registration) :
    (cell.register registration).IsCoherent :=
  .inl rfl

theorem force_of_isCoherent (h : cell.IsCoherent) :
    cell.force =
      (compile cell.registrations, ⟨cell.registrations, some (compile cell.registrations)⟩) := by
  obtain ⟨registrations, content⟩ := cell
  rcases h with h | h
  · obtain rfl : content = none := h
    rfl
  · obtain rfl : content = some (compile registrations) := h
    rfl

end Cell

/-- A grammar seen as one with a cell. -/
def toCell (g : Grammar) : Cell := ⟨g.registrations, g.kept.map Subtype.val⟩

theorem force_toCell (g : Grammar) : g.toCell.force = (g.compiled, g.prepare.toCell) := by
  obtain ⟨registrations, kept⟩ := g
  cases kept <;> rfl

/-- A new grammar on which options were registered, one after the other. -/
def built (registrations : List Registration) : Grammar :=
  registrations.foldl register (ofRegistrations [])

theorem registrations_built (registrations : List Registration) :
    (built registrations).registrations = registrations := by
  induction registrations using List.reverseRecOn with
  | nil => rfl
  | append_singleton registrations registration ih =>
    rw [built, List.foldl_append]
    exact congrArg (· ++ [registration]) ih

theorem compiled_built (registrations : List Registration) :
    (built registrations).compiled = compile registrations := by
  rw [compiled_eq, registrations_built]

namespace Storage

/-- Grammars are stored with a cell. -/
def cell : Storage Cell where
  register := Cell.register
  definitionKeys cell := Grammar.definitionKeys cell.registrations
  compiled := Cell.force

/-- Grammars are stored as they are, and prepared when their compiled form is needed. -/
def grammar : Storage Grammar where
  register := Grammar.register
  definitionKeys g := Grammar.definitionKeys g.registrations
  compiled g := (g.compiled, g.prepare)

/-- Only the registrations are stored, and a new grammar is built from them for each question. -/
def anew : Storage (List Registration) where
  register registrations registration := registrations ++ [registration]
  definitionKeys registrations := Grammar.definitionKeys (built registrations).registrations
  compiled registrations := ((built registrations).compiled, registrations)

/-- Directives are found by a new grammar. -/
theorem perform_anew_parse (registrations : List Registration) (text : String) :
    anew.perform registrations (.parse text) =
      (.directives ((built registrations).parse text), registrations) := rfl

/-- Directives are found by the grammar, which is prepared then. -/
theorem perform_grammar_parse (g : Grammar) (text : String) :
    grammar.perform g (.parse text) = (.directives (g.parse text), g.prepare) := by
  obtain ⟨registrations, kept⟩ := g
  cases kept <;> rfl

/-- Coherent cells look like their registrations. -/
theorem isView_registrations : cell.IsView anew Cell.IsCoherent Cell.registrations where
  isSound_register {s} _ registration := s.isCoherent_register registration
  view_register _ _ := rfl
  definitionKeys_eq {s} _ := congrArg Grammar.definitionKeys (registrations_built _).symm
  compiled_eq {s} hs := by
    simp only [cell, anew, Cell.force_of_isCoherent hs, compiled_built]
  isSound_compiled hs := by
    simp only [cell, Cell.force_of_isCoherent hs]
    exact .inr rfl
  view_compiled hs := by
    simp only [cell, anew, Cell.force_of_isCoherent hs]

/-- A grammar looks like one with a cell, whatever it has kept. -/
theorem isView_toCell : grammar.IsView cell (fun _ ↦ True) toCell where
  isSound_register _ _ := trivial
  view_register _ _ := rfl
  definitionKeys_eq _ := rfl
  compiled_eq {s} _ := (congrArg Prod.fst s.force_toCell).symm
  isSound_compiled _ := trivial
  view_compiled {s} _ := (congrArg Prod.snd s.force_toCell).symm

/-- After every history that begins with a new grammar, every cell is empty or holds what the
registrations of its grammar compile to. All answers of the history were those of grammars that are
built anew from the same registrations for each question, and what these answer to a text is what
they find in it. The grammars of this library give the same answers, find the same in a text and
have kept what the cells hold. -/
theorem run_cell (commands : List Command) :
    (∀ stored ∈ (cell.run [.new] commands).2,
      stored.content = none ∨ stored.content = some (compile stored.registrations)) ∧
    (cell.run [.new] commands).1 = (anew.run [[]] commands).1 ∧
    (cell.run [.new] commands).2.map Cell.registrations = (anew.run [[]] commands).2 ∧
    (grammar.run [ofRegistrations []] commands).1 = (cell.run [.new] commands).1 ∧
    (grammar.run [ofRegistrations []] commands).2.map toCell =
      (cell.run [.new] commands).2 ∧
    (∀ registrations text, anew.perform registrations (.parse text) =
      (.directives ((built registrations).parse text), registrations)) ∧
    ∀ g text, grammar.perform g (.parse text) = (.directives (g.parse text), g.prepare) := by
  have hnew : ∀ stored ∈ [Cell.new], stored.IsCoherent := by
    rw [List.forall_mem_singleton]
    exact Cell.isCoherent_new
  obtain ⟨hanswers, hcoherent, hregistrations⟩ := isView_registrations.run_eq hnew commands
  have hfirst : ∀ g ∈ [ofRegistrations []], True := fun _ _ ↦ trivial
  obtain ⟨hlibrary, -, hcells⟩ := isView_toCell.run_eq hfirst commands
  exact ⟨hcoherent, hanswers, hregistrations, hlibrary, hcells, perform_anew_parse,
    perform_grammar_parse⟩

/-- A cell that kept its content over a registration would not know the new key. -/
example :
    let stale : Cell := ⟨[.definition "password"], some (compile [])⟩
    stale.force.1.parse "-password x" = [.unknown "--password"] ∧
      (built stale.registrations).parse "-password x" = [.customDefinition "password" "x"] := by
  decide +kernel

end Storage

end ServiceHost.Grammar
