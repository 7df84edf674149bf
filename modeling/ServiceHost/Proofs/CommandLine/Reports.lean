import Mathlib.Data.List.TakeWhile
import Mathlib.Tactic.SplitIfs
import ServiceHost.Report

/-!
# Reported directives can be told apart

A report has a line of text or a JSON value for each directive. Quotes and backslashes are escaped
in a quoted text, so that it can be seen where the text ends, whatever follows it. A line or a value
therefore belongs to one directive only.

## Main results

* `Text.quoted_append_inj` : a quoted text can be read off a list of characters that begins with it.
* `Directive.text_injective` : a line of text belongs to one directive.
* `Directive.toJson_injective` : a JSON value belongs to one directive.
-/

namespace ServiceHost

namespace Text

/-! ### Digits -/

theorem digitChar_inj : ∀ m < 16, ∀ n < 16, Nat.digitChar m = Nat.digitChar n → m = n := by decide

/-- The last digit of a number comes off its end. -/
theorem toDigits_eq (n : Nat) : Nat.toDigits 16 n =
    if n < 16 then [n.digitChar] else Nat.toDigits 16 (n / 16) ++ [(n % 16).digitChar] :=
  Nat.toDigits_eq_if (by decide)

/-- Numbers can be told apart by their digits. -/
theorem toDigits_injective : Function.Injective (Nat.toDigits 16) := by
  intro m
  induction m using Nat.strongRecOn with
  | ind m ih =>
    intro n h
    rw [toDigits_eq m, toDigits_eq n] at h
    split_ifs at h with hm hn hn
    · exact digitChar_inj m hm n hn (List.singleton_inj.mp h)
    · simp [List.singleton_eq_append_iff, Nat.toDigits_ne_nil] at h
    · simp [List.append_eq_singleton_iff, Nat.toDigits_ne_nil] at h
    · obtain ⟨hfirst, hlast⟩ := List.append_inj' h rfl
      have hquotient := ih (m / 16) (by omega) hfirst
      have hremainder := digitChar_inj _ (m.mod_lt (by decide)) _ (n.mod_lt (by decide))
        (List.singleton_inj.mp hlast)
      omega

theorem brace_not_mem_toDigits (n : Nat) : '\x7d' ∉ Nat.toDigits 16 n := by
  have hdigit : ∀ d < 16, '\x7d' ≠ Nat.digitChar d := by decide
  induction n using Nat.strongRecOn with
  | ind n ih =>
    rw [toDigits_eq]
    split_ifs with hn
    · exact fun h ↦ hdigit n hn (List.mem_singleton.mp h)
    · refine fun h ↦ (List.mem_append.mp h).elim (ih (n / 16) (by omega)) fun h ↦ ?_
      exact hdigit _ (n.mod_lt (by decide)) (List.mem_singleton.mp h)

/-- Numbers can be told apart by their digits before a brace. -/
theorem toDigits_append_brace_inj {m n : Nat} {following others : List Char}
    (h : Nat.toDigits 16 m ++ '\x7d' :: following = Nat.toDigits 16 n ++ '\x7d' :: others) :
    m = n ∧ following = others := by
  have hdigits (k : Nat) (rest : List Char) :
      (Nat.toDigits 16 k ++ '\x7d' :: rest).takeWhile (· ≠ '\x7d') = Nat.toDigits 16 k := by
    have hall : ∀ c ∈ Nat.toDigits 16 k, decide (c ≠ '\x7d') := fun c hc ↦
      decide_eq_true fun h ↦ brace_not_mem_toDigits k (h ▸ hc)
    rw [List.takeWhile_append_of_pos hall]
    exact List.append_nil _
  obtain rfl : m = n := toDigits_injective <| by rw [← hdigits m following, h, hdigits]
  exact ⟨rfl, (List.cons.inj (List.append_cancel_left h)).2⟩

/-! ### Quoted texts -/

/-- The characters that are escaped by a letter, after this letter. -/
def letterEscapes : List (Char × Char) :=
  [('0', '\x00'), ('t', '\t'), ('r', '\r'), ('n', '\n'), ('"', '"'), ('\\', '\\')]

/-- A character is escaped by a letter, not at all, or by its code point. -/
theorem toList_escape (c : Char) :
    (∃ letter, (letter, c) ∈ letterEscapes ∧ (escape c).toList = ['\\', letter]) ∨
    (c ≠ '"' ∧ c ≠ '\\' ∧ (escape c).toList = [c]) ∨
    (escape c).toList = '\\' :: 'u' :: '\x7b' :: (Nat.toDigits 16 c.toNat ++ ['\x7d']) := by
  unfold escape
  split
  case h_7 hquote hbackslash =>
    split_ifs
    · exact .inr (.inl ⟨hquote, hbackslash, by simp⟩)
    · exact .inr (.inr (by simp [hexDigits]))
  all_goals exact .inl ⟨_, by decide, rfl⟩

/-- A letter escapes one character only, and no letter stands for a code point. -/
theorem letterEscapes_inj : (∀ one ∈ letterEscapes, ∀ other ∈ letterEscapes,
    one.1 = other.1 → one.2 = other.2) ∧ ∀ one ∈ letterEscapes, one.1 ≠ 'u' := by decide

/-- An escaped character can be read off a list of characters that begins with it. -/
theorem escape_append_inj {c d : Char} {following others : List Char}
    (h : (escape c).toList ++ following = (escape d).toList ++ others) :
    c = d ∧ following = others := by
  obtain ⟨hinj, hletter⟩ := letterEscapes_inj
  rcases toList_escape c with ⟨letter, hc, hcs⟩ | ⟨-, hc, hcs⟩ | hcs <;>
    rcases toList_escape d with ⟨other, hd, hds⟩ | ⟨-, hd, hds⟩ | hds <;>
    rw [hcs, hds] at h
  · obtain ⟨rfl, rfl⟩ : letter = other ∧ following = others := by simpa using h
    exact ⟨hinj _ hc _ hd rfl, rfl⟩
  · exact absurd (List.cons.inj h).1.symm hd
  · exact absurd (List.cons.inj (List.cons.inj h).2).1 (hletter _ hc)
  · exact absurd (List.cons.inj h).1 hc
  · simpa using h
  · exact absurd (List.cons.inj h).1 hc
  · exact absurd (List.cons.inj (List.cons.inj h).2).1.symm (hletter _ hd)
  · exact absurd (List.cons.inj h).1.symm hd
  · simp only [List.cons_append, List.append_assoc, List.nil_append, List.cons.injEq, true_and] at h
    obtain ⟨hsame, hfollowing⟩ := toDigits_append_brace_inj h
    exact ⟨Char.toNat_inj.mp hsame, hfollowing⟩

/-- No escaped character begins with a quote. -/
theorem escape_append_ne_quote (c : Char) (following others : List Char) :
    (escape c).toList ++ following ≠ '"' :: others := by
  rcases toList_escape c with ⟨letter, -, hc⟩ | ⟨hquote, -, hc⟩ | hc <;> rw [hc] <;> intro h
  · exact absurd (List.cons.inj h).1 (by decide)
  · exact absurd (List.cons.inj h).1 hquote
  · exact absurd (List.cons.inj h).1 (by decide)

theorem toList_quoted (text : String) :
    (quoted text).toList = '"' :: (text.toList.flatMap fun c ↦ (escape c).toList) ++ ['"'] := by
  rw [quoted, String.toList_append, String.toList_append, String.toList_join, List.flatMap_map]
  rfl

/-- A quoted text can be read off a list of characters that begins with it. -/
theorem quoted_append_inj {text other : String} {following others : List Char}
    (h : (quoted text).toList ++ following = (quoted other).toList ++ others) :
    text = other ∧ following = others := by
  have hchars (cs ds : List Char) (h : (cs.flatMap fun c ↦ (escape c).toList) ++ '"' :: following =
      (ds.flatMap fun c ↦ (escape c).toList) ++ '"' :: others) : cs = ds ∧ following = others := by
    induction cs generalizing ds with
    | nil =>
      cases ds with
      | nil => exact ⟨rfl, (List.cons.inj h).2⟩
      | cons d ds =>
        rw [List.flatMap_cons, List.append_assoc] at h
        exact absurd h.symm (escape_append_ne_quote d _ _)
    | cons c cs ih =>
      rw [List.flatMap_cons, List.append_assoc] at h
      cases ds with
      | nil => exact absurd h (escape_append_ne_quote c _ _)
      | cons d ds =>
        rw [List.flatMap_cons, List.append_assoc] at h
        obtain ⟨rfl, hrest⟩ := escape_append_inj h
        obtain ⟨rfl, hfollowing⟩ := ih ds hrest
        exact ⟨rfl, hfollowing⟩
  rw [toList_quoted, toList_quoted] at h
  obtain ⟨hsame, hfollowing⟩ := hchars text.toList other.toList (by simpa using h)
  exact ⟨String.toList_inj.mp hsame, hfollowing⟩

theorem quoted_injective : Function.Injective quoted := fun _ _ h ↦
  (quoted_append_inj (congrArg (·.toList ++ []) h)).1

end Text

/-! ### Directives -/

theorem Mode.name_injective : Function.Injective Mode.name := by
  intro mode other h
  cases mode <;> cases other <;> first | rfl | exact absurd h (by decide)

theorem StartMode.name_injective : Function.Injective StartMode.name := by
  intro mode other h
  cases mode <;> cases other <;> first | rfl | exact absurd h (by decide)

theorem StartMode.title_injective : Function.Injective StartMode.title := by
  intro mode other h
  cases mode <;> cases other <;> first | rfl | exact absurd h (by decide)

namespace Directive

theorem modeTitle_injective : Function.Injective modeTitle := by
  intro mode other h
  cases mode <;> cases other <;> first | rfl | exact absurd h (by decide)

/-- A JSON value belongs to one directive. -/
theorem toJson_injective : Function.Injective toJson := by
  intro directive other h
  cases directive <;> cases other <;>
    simp_all [toJson, parts, Mode.name_injective.eq_iff, StartMode.name_injective.eq_iff]

/-- The word at the beginning of a line of text can be read off it. -/
theorem takeWhile_text (directive : Directive) :
    directive.text.toList.takeWhile Char.isAlpha = directive.title.toList := by
  have hletters : directive.title.toList.all Char.isAlpha := by
    cases directive <;> simp only [title] <;> decide +kernel
  have hdetail : directive.detail.toList.takeWhile Char.isAlpha = [] := by
    cases directive <;> simp only [detail, String.toList_append] <;> rfl
  rw [text, String.toList_append, List.takeWhile_append_of_pos (List.all_eq_true.mp hletters),
    hdetail, List.append_nil]

/-- A name and a value can be told apart where both are reported. -/
theorem named_inj {name other value otherValue : String}
    (h : " \x7b name: " ++ Text.quoted name ++ ", value: " ++ value ++ " \x7d" =
      " \x7b name: " ++ Text.quoted other ++ ", value: " ++ otherValue ++ " \x7d") :
    name = other ∧ value = otherValue := by
  have hchars := congrArg String.toList h
  simp only [String.toList_append, List.append_assoc, List.append_right_inj] at hchars
  obtain ⟨rfl, hvalue⟩ := Text.quoted_append_inj hchars
  rw [List.append_right_inj, List.append_left_inj, String.toList_inj] at hvalue
  exact ⟨rfl, hvalue⟩

/-- A line of text belongs to one directive. -/
theorem text_injective : Function.Injective text := by
  intro directive other h
  have htitle : directive.title = other.title := by
    rw [← String.toList_inj, ← takeWhile_text, h, takeWhile_text]
  rw [text, text, htitle, String.append_right_inj] at h
  cases directive <;> cases other
  case customSwitch.customSwitch name value other otherValue =>
    obtain ⟨rfl, hvalue⟩ := named_inj h
    cases value <;> cases otherValue <;> first | rfl | exact absurd hvalue (by decide)
  case customDefinition.customDefinition name value other otherValue =>
    obtain ⟨rfl, hvalue⟩ := named_inj h
    rw [Text.quoted_injective hvalue]
  -- the titles are the same in the remaining cases of one kind only
  all_goals simp_all [title, detail, Text.quoted_injective.eq_iff, modeTitle_injective.eq_iff,
    StartMode.title_injective.eq_iff]

end Directive

end ServiceHost
