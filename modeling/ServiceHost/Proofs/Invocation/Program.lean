import ServiceHost.Invocation
import ServiceHost.Proofs.Grammar.Classification
import ServiceHost.Proofs.Token.Concatenation

/-!
# The path of the program

The line with which a program was started begins with its path, bare or in quotes. The path is
compared with the beginning of the line character by character, so that it is also found at the
beginning of a longer word. A bare path without quotes never begins like the quoted one, so that it
makes no difference which of the two is looked for first.

## Main definitions

* `Invocation.BeginsWith` : a line that is a path, bare or in quotes, and a rest.

## Main results

* `Invocation.dropBeginning?_eq_some_iff` : what follows the beginning of a text.
* `Invocation.withoutProgram_cases` : the line without the path of the program.
-/

namespace ServiceHost

open ServiceHost.Text

/-- Blanks before a text change none of its directives. -/
theorem Grammar.parse_gap_append (g : Grammar) {gap after : String}
    (hblank : ∀ c ∈ gap.toList, isBlank c) : g.parse (gap ++ after) = g.parse after := by
  rw [parse, parse, compiled_eq, parse_compile, parse_compile, Token.read_gap_append hblank]

namespace Invocation

variable {line program rest : String}

/-! ### The beginning of a text -/

/-- A text begins with another one if it is this one and a rest, which then follows. -/
theorem dropBeginning?_eq_some_iff {text beginning : String} :
    dropBeginning? text beginning = some rest ↔ text = beginning ++ rest := by
  rw [dropBeginning?, ← String.toList_inj, String.toList_append]
  split_ifs with hprefix
  · obtain ⟨after, hafter⟩ := List.isPrefixOf_iff_prefix.mp hprefix
    rw [← hafter, List.drop_left, Option.some.injEq, List.append_cancel_left_eq,
      ← String.toList_inj, String.toList_ofList]
  · refine ⟨nofun, fun heq ↦ absurd ?_ hprefix⟩
    rw [heq, List.isPrefixOf_iff_prefix]
    exact List.prefix_append _ _

theorem dropBeginning?_append (beginning rest : String) :
    dropBeginning? (beginning ++ rest) beginning = some rest :=
  dropBeginning?_eq_some_iff.mpr rfl

theorem dropBeginning?_eq_none_iff {text beginning : String} :
    dropBeginning? text beginning = none ↔ ∀ rest, text ≠ beginning ++ rest := by
  simp only [Option.eq_none_iff_forall_ne_some, ne_eq, dropBeginning?_eq_some_iff]

/-! ### The beginning of a line -/

/-- The line is the path of the program, bare or in quotes, and the rest. -/
def BeginsWith (program line rest : String) : Prop :=
  line = program ++ rest ∨ line = inQuotes program ++ rest

/-- A line that begins with a quote does not begin with a path that contains none. -/
theorem inQuotes_append_ne (hne : program ≠ "") (hquote : '"' ∉ program.toList)
    (rest after : String) : inQuotes program ++ rest ≠ program ++ after := by
  intro heq
  have hchars := congrArg String.toList heq
  cases hprogram : program.toList with
  | nil => exact hne (String.toList_eq_nil_iff.mp hprogram)
  | cons first following =>
    rw [String.toList_append, String.toList_append, hprogram] at hchars
    simp only [inQuotes, String.toList_append, String.reduceToList, List.cons_append,
      List.nil_append, List.cons.injEq] at hchars
    rw [hprogram, ← hchars.1] at hquote
    exact hquote List.mem_cons_self

/-- What follows the path of the program is left of the line. -/
theorem BeginsWith.withoutProgram_eq (h : BeginsWith program line rest) (hne : program ≠ "")
    (hquote : '"' ∉ program.toList) : withoutProgram line program = rest := by
  obtain rfl | rfl := h
  · rw [withoutProgram, dropBeginning?_append, Option.some_or, Option.getD_some]
  · have hbare : dropBeginning? (inQuotes program ++ rest) program = none :=
      dropBeginning?_eq_none_iff.mpr (inQuotes_append_ne hne hquote rest)
    rw [withoutProgram, hbare, Option.none_or, dropBeginning?_append, Option.getD_some]

/-- A line that does not begin with the path of the program is left as it is. -/
theorem withoutProgram_of_not_beginsWith (h : ∀ rest, ¬ BeginsWith program line rest) :
    withoutProgram line program = line := by
  have hbare : dropBeginning? line program = none :=
    dropBeginning?_eq_none_iff.mpr fun rest heq ↦ h rest (.inl heq)
  have hquoted : dropBeginning? line (inQuotes program) = none :=
    dropBeginning?_eq_none_iff.mpr fun rest heq ↦ h rest (.inr heq)
  rw [withoutProgram, hbare, hquoted, Option.none_or, Option.getD_none]

/-- Let the path of the program be a text that is not empty and contains no quote. If the line is
this path, bare or in quotes, and a rest, this rest is left of it, whatever it begins with. Under
every grammar the directives of what is left are those of the rest, with or without the blanks
before it. Any other line is left as it is. -/
theorem withoutProgram_cases (hne : program ≠ "") (hquote : '"' ∉ program.toList)
    (line : String) :
    (∀ rest, BeginsWith program line rest → withoutProgram line program = rest ∧
      ∀ (g : Grammar) (gap after : String), rest = gap ++ after →
        (∀ c ∈ gap.toList, isBlank c) → g.parse (withoutProgram line program) = g.parse after) ∧
    ((∀ rest, ¬ BeginsWith program line rest) → withoutProgram line program = line) := by
  refine ⟨fun rest h ↦ ?_, withoutProgram_of_not_beginsWith⟩
  have hrest := h.withoutProgram_eq hne hquote
  refine ⟨hrest, fun g gap after hgap hblank ↦ ?_⟩
  rw [hrest, hgap, g.parse_gap_append hblank]

/-- A quoted path with a blank, and blanks after it. -/
theorem withoutProgram_cases_quoted :
    '"' ∉ "C:\\My Files\\svc".toList ∧
      withoutProgram "\"C:\\My Files\\svc\" \tstart" "C:\\My Files\\svc" = " \tstart" ∧
      (default : Grammar).parse
        (withoutProgram "\"C:\\My Files\\svc\" \tstart" "C:\\My Files\\svc") =
          (default : Grammar).parse "start" := by
  have hquote : '"' ∉ "C:\\My Files\\svc".toList := by decide
  obtain ⟨hrest, hparse⟩ := (withoutProgram_cases (by decide) hquote
    "\"C:\\My Files\\svc\" \tstart").1 " \tstart" (.inr (by decide))
  exact ⟨hquote, hrest, hparse default " \t" "start" (by decide) (List.all_eq_true.mp (by decide))⟩

/-- A line that begins with a longer path loses the beginning of it, and what is left of the longer
path is taken for a command. -/
theorem withoutProgram_longer_path :
    "/opt/svc" ≠ "" ∧ '"' ∉ "/opt/svc".toList ∧
      (∀ rest, Token.closes rest.toList → ¬ BeginsWith "/opt/svc" "/opt/svc2 x" rest) ∧
      withoutProgram "/opt/svc2 x" "/opt/svc" = "2 x" ∧
      (default : Grammar).parse (withoutProgram "/opt/svc2 x" "/opt/svc") =
        [.unknownCommand "2"] := by
  have hrest : withoutProgram "/opt/svc2 x" "/opt/svc" = "2 x" := by decide
  refine ⟨by decide, by decide, fun rest hcloses h ↦ ?_, hrest, by decide +kernel⟩
  obtain rfl : "2 x" = rest := hrest.symm.trans (h.withoutProgram_eq (by decide) (by decide))
  exact absurd hcloses (by decide)

end Invocation

end ServiceHost
