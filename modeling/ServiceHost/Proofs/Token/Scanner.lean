import Mathlib.Data.List.TakeWhile
import Mathlib.Tactic.SplitIfs
import ServiceHost.Input.Parser
import ServiceHost.Token.Basic
import ServiceHost.Token.Key

/-!
# A scanner without parsers

The tokens of a text can be read in one pass. At each character that is no blank, one rule decides
from the longest run of key characters after a hyphen, or after two, and from what follows it.

* `-key:` begins a definition. Its value follows the colon and may be empty.
* `-key` before blanks and a further character begins a definition if the key is a definition
  key. Its value begins at that character.
* `-key` and `--key` before a blank or the end are switches.
* Everything else is an argument.

A value and an argument extend to the next quote if they begin with one, without both quotes, and
to the next blank otherwise.

## Main definitions

* `Token.splitValue`, `Token.splitKey?` : the value and the key at the beginning of a text.
* `Token.scanToken` : the token at the beginning of a text and the text after it.
* `Token.scan`, `Token.scanned` : the tokens of a text, with and without their ranges of bytes.

## Main results

* `Token.scanToken_suffix` : a token takes at least one character.
* `Token.scanned_of_token` : the scanner reads a token where the blanks end and goes on after it.
-/

namespace ServiceHost

namespace Token

open ServiceHost.Text

/-! ### The rules -/

/-- The text ends or goes on with a blank. -/
def closes (chars : List Char) : Bool := chars.head?.all isBlank

/-- The value at the beginning of a text and the text after it. -/
def splitValue : List Char → String × List Char
  | '"' :: chars =>
    (String.ofList (chars.takeWhile (· != '"')), (chars.dropWhile (· != '"')).drop 1)
  | chars =>
    (String.ofList (chars.takeWhile fun c ↦ !isBlank c), chars.dropWhile fun c ↦ !isBlank c)

/-- The token made from the value at the beginning of a text, and the text after it. -/
def scanValue (make : String → Token) (chars : List Char) : Token × List Char :=
  (make (splitValue chars).1, (splitValue chars).2)

/-- The longest run of key characters at the beginning of a text, if it is a key, and the text
after it. -/
def splitKey? (chars : List Char) : Option (String × List Char) :=
  let name := chars.takeWhile isKeyChar
  if isKey name then some (String.ofList name, chars.dropWhile isKeyChar) else none

/-- The definition or switch with one hyphen and the given key, by the text after the key. -/
def scanAfterKey? (keys : List String) (key : String) (after : List Char) :
    Option (Token × List Char) :=
  let value := after.dropWhile isBlank
  if after.head? = some ':' then some (scanValue (definition key) (after.drop 1))
  else if !closes after then none
  else if key ∈ keys ∧ value ≠ [] then some (scanValue (definition key) value)
  else some (switch key true, after)

/-- The definition or switch at the beginning of a text that begins with one hyphen. -/
def scanShort? (keys : List String) : List Char → Option (Token × List Char)
  | '-' :: chars => (splitKey? chars).bind fun (key, after) ↦ scanAfterKey? keys key after
  | _ => none

/-- The switch at the beginning of a text that begins with two hyphens. -/
def scanLong? : List Char → Option (Token × List Char)
  | '-' :: '-' :: chars => (splitKey? chars).bind fun (key, after) ↦
    if closes after then some (switch key true, after) else none
  | _ => none

/-- The token at the beginning of a text, which is not empty and begins with no blank, and the
text after it. -/
def scanToken (keys : List String) (chars : List Char) : Token × List Char :=
  ((scanShort? keys chars).or (scanLong? chars)).getD (scanValue argument chars)

theorem splitValue_quote (chars : List Char) : splitValue ('"' :: chars) =
    (String.ofList (chars.takeWhile (· != '"')), (chars.dropWhile (· != '"')).drop 1) := rfl

theorem splitValue_of_ne {chars : List Char} (h : chars.head? ≠ some '"') :
    splitValue chars = (String.ofList (chars.takeWhile fun c ↦ !isBlank c),
      chars.dropWhile fun c ↦ !isBlank c) := by
  unfold splitValue
  split
  · exact absurd rfl h
  · rfl

/-- Every definition and every switch begins with a hyphen. -/
theorem scanShort?_of_head_ne {chars : List Char} (h : chars.head? ≠ some '-')
    (keys : List String) : scanShort? keys chars = none := by
  unfold scanShort?
  split
  · exact absurd rfl h
  · rfl

theorem scanLong?_of_head_ne {chars : List Char} (h : chars.head? ≠ some '-') :
    scanLong? chars = none := by
  unfold scanLong?
  split
  · exact absurd rfl h
  · rfl

theorem scanLong?_of_second_ne {chars : List Char} (h : chars.head? ≠ some '-') :
    scanLong? ('-' :: chars) = none := by
  unfold scanLong?
  split
  · rename_i heq
    rw [(List.cons.inj heq).2] at h
    exact absurd rfl h
  · rfl

/-! ### The text after a token -/

theorem splitValue_suffix (chars : List Char) : (splitValue chars).2 <:+ chars := by
  by_cases hquote : chars.head? = some '"'
  · obtain ⟨following, rfl⟩ := List.head?_eq_some_iff.mp hquote
    rw [splitValue_quote]
    exact ((List.drop_suffix 1 _).trans (List.dropWhile_suffix _)).trans (List.suffix_cons _ _)
  · rw [splitValue_of_ne hquote]
    exact List.dropWhile_suffix _

/-- A value that begins with no blank is not empty, counting its quotes. -/
theorem splitValue_suffix_tail {first : Char} (h : isBlank first = false) (chars : List Char) :
    (splitValue (first :: chars)).2 <:+ chars := by
  by_cases hquote : first = '"'
  · subst hquote
    rw [splitValue_quote]
    exact (List.drop_suffix 1 _).trans (List.dropWhile_suffix _)
  · rw [splitValue_of_ne (by simpa using hquote), List.dropWhile_cons_of_pos (by simp [h])]
    exact List.dropWhile_suffix _

theorem splitKey?_suffix {chars : List Char} {out : String × List Char}
    (h : splitKey? chars = some out) : out.2 <:+ chars := by
  obtain ⟨-, h⟩ := Option.ite_none_right_eq_some.mp h
  cases h
  exact List.dropWhile_suffix _

theorem scanAfterKey?_suffix {keys : List String} {key : String} {after : List Char}
    {out : Token × List Char} (h : scanAfterKey? keys key after = some out) : out.2 <:+ after := by
  simp only [scanAfterKey?] at h
  split_ifs at h
  · cases h
    exact (splitValue_suffix _).trans (List.drop_suffix 1 _)
  · cases h
    exact (splitValue_suffix _).trans (List.dropWhile_suffix _)
  · cases h
    exact List.suffix_refl _

theorem scanShort?_suffix {keys : List String} {first : Char} {chars : List Char}
    {out : Token × List Char} (h : scanShort? keys (first :: chars) = some out) :
    out.2 <:+ chars := by
  unfold scanShort? at h
  split at h
  · rename_i hchars
    obtain rfl := (List.cons.inj hchars).2
    obtain ⟨⟨key, after⟩, hkey, hout⟩ := Option.bind_eq_some_iff.mp h
    exact (scanAfterKey?_suffix hout).trans (splitKey?_suffix hkey)
  · cases h

theorem scanLong?_suffix {first : Char} {chars : List Char} {out : Token × List Char}
    (h : scanLong? (first :: chars) = some out) : out.2 <:+ chars := by
  unfold scanLong? at h
  split at h
  · rename_i hchars
    obtain rfl := (List.cons.inj hchars).2
    obtain ⟨⟨key, after⟩, hkey, hout⟩ := Option.bind_eq_some_iff.mp h
    obtain ⟨-, hout⟩ := Option.ite_none_right_eq_some.mp hout
    cases hout
    exact (splitKey?_suffix hkey).trans (List.suffix_cons _ _)
  · cases h

/-- A token takes at least one character. -/
theorem scanToken_suffix (keys : List String) {first : Char} (h : isBlank first = false)
    (chars : List Char) : (scanToken keys (first :: chars)).2 <:+ chars := by
  cases hrules : (scanShort? keys (first :: chars)).or (scanLong? (first :: chars)) with
  | none =>
    rw [scanToken, hrules]
    exact splitValue_suffix_tail h chars
  | some out =>
    rw [scanToken, hrules]
    rcases Option.or_eq_some_iff.mp hrules with hout | ⟨-, hout⟩
    · exact scanShort?_suffix hout
    · exact scanLong?_suffix hout

theorem not_of_dropWhile_eq_cons {p : Char → Bool} {chars rest : List Char} {c : Char}
    (h : chars.dropWhile p = c :: rest) : p c = false := by
  have hnot := List.head?_dropWhile_not p chars
  rwa [h] at hnot

theorem length_scanToken_lt (keys : List String) {chars following : List Char} {first : Char}
    (h : chars.dropWhile isBlank = first :: following) :
    (scanToken keys (first :: following)).2.length < chars.length := by
  have htoken := (scanToken_suffix keys (not_of_dropWhile_eq_cons h) following).length_le
  have hblanks := (List.dropWhile_suffix (l := chars) isBlank).length_le
  rw [h, List.length_cons] at hblanks
  omega

/-! ### The scanner -/

/-- The tokens of a text that stands at the given offset, with the ranges of bytes that they
take. -/
def scan (keys : List String) (offset : Nat) (chars : List Char) : List (Spanned Token) :=
  match _h : chars.dropWhile isBlank with
  | [] => []
  | first :: following =>
    let start := offset + Width.total (chars.takeWhile isBlank)
    let out := scanToken keys (first :: following)
    let stop := start + (Width.total (first :: following) - Width.total out.2)
    ⟨out.1, start, stop⟩ :: scan keys stop out.2
termination_by chars.length
decreasing_by exact length_scanToken_lt _ _h

variable {keys : List String} {offset : Nat} {chars : List Char}

theorem scan_of_blank (h : chars.dropWhile isBlank = []) : scan keys offset chars = [] := by
  unfold scan
  split
  · rfl
  · rename_i hcons
    rw [h] at hcons
    cases hcons

/-- The scanner reads a token where the blanks end and goes on after it. -/
theorem scan_of_token {first : Char} {following : List Char}
    (h : chars.dropWhile isBlank = first :: following) :
    scan keys offset chars =
      let start := offset + Width.total (chars.takeWhile isBlank)
      let out := scanToken keys (first :: following)
      let stop := start + (Width.total (first :: following) - Width.total out.2)
      ⟨out.1, start, stop⟩ :: scan keys stop out.2 := by
  rw [scan]
  split
  · rename_i hnil
    rw [h] at hnil
    cases hnil
  · rename_i hcons
    rw [h] at hcons
    cases hcons
    rfl

/-- The tokens that the scanner reads, without their ranges. -/
def scanned (keys : List String) (chars : List Char) : List Token :=
  (scan keys 0 chars).map Spanned.value

/-- The offset of the text matters to the ranges only. -/
theorem map_value_scan (keys : List String) (offset : Nat) (chars : List Char) :
    (scan keys offset chars).map Spanned.value = scanned keys chars := by
  cases h : chars.dropWhile isBlank with
  | nil => rw [scanned, scan_of_blank h, scan_of_blank h]
  | cons first following =>
    rw [scanned, scan_of_token h, scan_of_token h]
    dsimp only
    rw [List.map_cons, List.map_cons, map_value_scan keys, map_value_scan keys]
termination_by chars.length
decreasing_by all_goals exact length_scanToken_lt keys h

theorem scanned_of_blank (h : chars.dropWhile isBlank = []) : scanned keys chars = [] := by
  rw [scanned, scan_of_blank h, List.map_nil]

@[simp] theorem scanned_nil (keys : List String) : scanned keys [] = [] := scanned_of_blank rfl

theorem scanned_of_token {first : Char} {following : List Char}
    (h : chars.dropWhile isBlank = first :: following) :
    scanned keys chars = (scanToken keys (first :: following)).1 ::
      scanned keys (scanToken keys (first :: following)).2 := by
  rw [scanned, scan_of_token h]
  dsimp only
  rw [List.map_cons, map_value_scan]

theorem dropWhile_of_not_closes (h : closes chars = false) : chars.dropWhile isBlank = chars := by
  cases chars with
  | nil => rfl
  | cons first following =>
    have hfirst : isBlank first = false := h
    exact List.dropWhile_cons_of_neg (by simp [hfirst])

/-- A text that begins with no blank begins with a token. -/
theorem scan_of_not_closes (h : closes chars = false) :
    scan keys offset chars =
      let out := scanToken keys chars
      let stop := offset + (Width.total chars - Width.total out.2)
      ⟨out.1, offset, stop⟩ :: scan keys stop out.2 := by
  have hskip := dropWhile_of_not_closes h
  cases chars with
  | nil => cases h
  | cons first following =>
    have hgap : (first :: following).takeWhile isBlank = [] :=
      List.takeWhile_cons_of_neg (ne_true_of_eq_false h)
    rw [scan_of_token hskip, hgap]
    rfl

theorem scanned_of_not_closes (h : closes chars = false) :
    scanned keys chars = (scanToken keys chars).1 :: scanned keys (scanToken keys chars).2 := by
  have hskip := dropWhile_of_not_closes h
  cases chars with
  | nil => cases h
  | cons first following => exact scanned_of_token hskip

theorem scanned_cons_of_isBlank {c : Char} (h : isBlank c) (chars : List Char) :
    scanned keys (c :: chars) = scanned keys chars := by
  have hskip : (c :: chars).dropWhile isBlank = chars.dropWhile isBlank :=
    List.dropWhile_cons_of_pos h
  cases hrest : chars.dropWhile isBlank with
  | nil => rw [scanned_of_blank hrest, scanned_of_blank (hskip.trans hrest)]
  | cons first following =>
    rw [scanned_of_token hrest, scanned_of_token (hskip.trans hrest)]

end Token

end ServiceHost
