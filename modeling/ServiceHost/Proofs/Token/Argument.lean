import ServiceHost.Token.Basic
import ServiceHost.Token.Key

/-!
# Tokens of single arguments

A program that receives its arguments one by one needs no quotes to tell them apart. Each
argument then stands for a token of its own: `-key:value` for a definition, `-key` and `--key` for
a switch, and every other text for itself. Under given definition keys an argument `-key` with
one of them takes the argument after it as its value, whatever that is.

## Main definitions

* `Token.ofArgument` : the token that one argument stands for.
* `Token.ofArguments` : the tokens that a list of arguments stands for under definition keys.

## Main results

* `Token.ofArgument_eq_definition`, `Token.ofArgument_eq_argument` : the arguments that stand for a
  given token.
* `Token.ofArguments_nil` : without definition keys each argument stands for itself.
-/

namespace ServiceHost.Token

/-! ### Keys -/

theorem isKeyChar_of_isKey {key : List Char} (h : isKey key) {c : Char} (hc : c ∈ key) :
    isKeyChar c := by
  cases key with
  | nil => cases hc
  | cons first following =>
    simp only [isKey, isKeyStart, Bool.and_eq_true, List.all_eq_true] at h
    rcases List.mem_cons.mp hc with rfl | hc
    · exact h.1.1
    · exact h.2 c hc

theorem colon_notMem_of_isKey {key : List Char} (h : isKey key) : ':' ∉ key :=
  fun hc ↦ absurd (isKeyChar_of_isKey h hc) (by decide)

theorem isBlank_of_isKey {key : List Char} (h : isKey key) {c : Char} (hc : c ∈ key) :
    Text.isBlank c = false := by
  have hchar := isKeyChar_of_isKey h hc
  simp only [isKeyChar, Bool.and_eq_true, Bool.not_eq_true'] at hchar
  exact hchar.1.1

/-- No key begins with a hyphen. -/
theorem isKey_hyphen_cons (chars : List Char) : isKey ('-' :: chars) = false := rfl

/-! ### One argument -/

/-- The definition that the characters `-key:value` stand for. -/
def inlineForm? : List Char → Option Token
  | '-' :: chars =>
    let key := chars.takeWhile (· != ':')
    match chars.dropWhile (· != ':') with
    | _ :: value =>
      if isKey key then some (definition (String.ofList key) (String.ofList value)) else none
    | [] => none
  | _ => none

/-- The switch that the characters `-key` and `--key` stand for. -/
def switchForm? : List Char → Option Token
  | '-' :: '-' :: key => if isKey key then some (switch (String.ofList key) true) else none
  | '-' :: key => if isKey key then some (switch (String.ofList key) true) else none
  | _ => none

/-- The token that one argument stands for. -/
def ofArgument (text : String) : Token :=
  ((inlineForm? text.toList).or (switchForm? text.toList)).getD (argument text)

theorem inlineForm?_eq_some {chars : List Char} {token : Token} :
    inlineForm? chars = some token ↔ ∃ key value : String, isKey key.toList ∧
      chars = '-' :: (key.toList ++ ':' :: value.toList) ∧ token = definition key value := by
  constructor
  · intro h
    unfold inlineForm? at h
    split at h
    · rename_i chars
      dsimp only at h
      split at h
      · rename_i colon value hrest
        obtain ⟨hkey, h⟩ := Option.ite_none_right_eq_some.mp h
        obtain rfl : colon = ':' := by
          have hcolon := List.head?_dropWhile_not (· != ':') chars
          rw [hrest] at hcolon
          simpa using hcolon
        refine ⟨_, _, by rwa [String.toList_ofList], ?_, (Option.some.inj h).symm⟩
        rw [String.toList_ofList, String.toList_ofList, ← hrest, List.takeWhile_append_dropWhile]
      · cases h
    · cases h
  · rintro ⟨key, value, hkey, rfl, rfl⟩
    have hne : ∀ c ∈ key.toList, (c != ':') = true := fun c hc ↦ by
      rw [bne_iff_ne]
      rintro rfl
      exact colon_notMem_of_isKey hkey hc
    simp [inlineForm?, List.takeWhile_append_of_pos hne, List.dropWhile_append_of_pos hne, hkey]

theorem switchForm?_eq_some {chars : List Char} {token : Token} :
    switchForm? chars = some token ↔ ∃ key : String, isKey key.toList ∧
      (chars = '-' :: key.toList ∨ chars = '-' :: '-' :: key.toList) ∧ token = switch key true := by
  constructor
  · intro h
    unfold switchForm? at h
    split at h
    · rename_i key
      obtain ⟨hkey, h⟩ := Option.ite_none_right_eq_some.mp h
      refine ⟨String.ofList key, ?_, .inr ?_, (Option.some.inj h).symm⟩ <;>
        rw [String.toList_ofList]
      exact hkey
    · rename_i key _
      obtain ⟨hkey, h⟩ := Option.ite_none_right_eq_some.mp h
      refine ⟨String.ofList key, ?_, .inl ?_, (Option.some.inj h).symm⟩ <;>
        rw [String.toList_ofList]
      exact hkey
    · cases h
  · rintro ⟨key, hkey, rfl | rfl, rfl⟩
    · unfold switchForm?
      split
      · rename_i heq
        rw [(List.cons.inj heq).2, isKey_hyphen_cons] at hkey
        cases hkey
      · rename_i heq
        obtain rfl := (List.cons.inj heq).2
        rw [if_pos hkey, String.ofList_toList]
      · rename_i hne
        exact absurd rfl (hne _)
    · simp [switchForm?, hkey]

/-- A definition contains a colon, and no switch does. -/
theorem inlineForm?_of_switch {chars : List Char} {token : Token}
    (h : switchForm? chars = some token) : inlineForm? chars = none := by
  refine Option.eq_none_iff_forall_ne_some.mpr fun token' hinline ↦ ?_
  obtain ⟨key', value, -, hchars, -⟩ := inlineForm?_eq_some.mp hinline
  have hcolon : ':' ∈ chars := by simp [hchars]
  obtain ⟨key, hkey, rfl | rfl, -⟩ := switchForm?_eq_some.mp h
  · exact colon_notMem_of_isKey hkey (by simpa using hcolon)
  · exact colon_notMem_of_isKey hkey (by simpa using hcolon)

theorem ofArgument_inline {key : String} (hkey : isKey key.toList) (value : String) :
    ofArgument ("-" ++ key ++ ":" ++ value) = definition key value := by
  rw [ofArgument, inlineForm?_eq_some.mpr ⟨key, value, hkey, by simp, rfl⟩]
  rfl

theorem ofArgument_switch {text key : String} (hkey : isKey key.toList)
    (htext : text = "-" ++ key ∨ text = "--" ++ key) : ofArgument text = switch key true := by
  have hchars : text.toList = '-' :: key.toList ∨ text.toList = '-' :: '-' :: key.toList := by
    rcases htext with rfl | rfl <;> simp
  have hswitch := switchForm?_eq_some.mpr ⟨key, hkey, hchars, rfl⟩
  rw [ofArgument, inlineForm?_of_switch hswitch, hswitch]
  rfl

/-- An argument has the form of a definition, that of a switch, or stands for itself. -/
theorem ofArgument_cases (text : String) :
    (∃ key value : String, isKey key.toList ∧ text = "-" ++ key ++ ":" ++ value ∧
        ofArgument text = definition key value) ∨
      (∃ key : String, isKey key.toList ∧ (text = "-" ++ key ∨ text = "--" ++ key) ∧
        ofArgument text = switch key true) ∨
      ofArgument text = argument text := by
  cases hinline : inlineForm? text.toList with
  | some token =>
    obtain ⟨key, value, hkey, hchars, -⟩ := inlineForm?_eq_some.mp hinline
    obtain rfl : text = "-" ++ key ++ ":" ++ value := String.toList_injective (by simp [hchars])
    exact .inl ⟨key, value, hkey, rfl, ofArgument_inline hkey value⟩
  | none =>
    cases hswitch : switchForm? text.toList with
    | some token =>
      obtain ⟨key, hkey, hchars, -⟩ := switchForm?_eq_some.mp hswitch
      have htext : text = "-" ++ key ∨ text = "--" ++ key :=
        hchars.imp (fun h ↦ String.toList_injective (by simp [h]))
          fun h ↦ String.toList_injective (by simp [h])
      exact .inr (.inl ⟨key, hkey, htext, ofArgument_switch hkey htext⟩)
    | none =>
      rw [ofArgument, hinline, hswitch]
      exact .inr (.inr rfl)

/-- An argument stands for a definition if it is a hyphen, the key, a colon and the value. -/
theorem ofArgument_eq_definition {text key value : String} :
    ofArgument text = definition key value ↔
      isKey key.toList ∧ text = "-" ++ key ++ ":" ++ value := by
  constructor
  · intro h
    obtain ⟨key', value', hkey, htext, htoken⟩ | ⟨key', -, -, htoken⟩ | htoken :=
      ofArgument_cases text
    · obtain ⟨rfl, rfl⟩ := definition.inj (htoken.symm.trans h)
      exact ⟨hkey, htext⟩
    · exact absurd (htoken.symm.trans h) nofun
    · exact absurd (htoken.symm.trans h) nofun
  · rintro ⟨hkey, rfl⟩
    exact ofArgument_inline hkey value

/-- An argument that stands for a text is that text, in neither of the other forms. -/
theorem ofArgument_eq_argument {text text' : String} :
    ofArgument text = argument text' ↔
      text = text' ∧ ∀ key : String, isKey key.toList → text ≠ "-" ++ key ∧ text ≠ "--" ++ key ∧
        ∀ value, text ≠ "-" ++ key ++ ":" ++ value := by
  constructor
  · intro h
    refine ⟨?_, fun key hkey ↦ ⟨?_, ?_, ?_⟩⟩
    · obtain ⟨key, value, -, -, htoken⟩ | ⟨key, -, -, htoken⟩ | htoken := ofArgument_cases text
      · exact absurd (htoken.symm.trans h) nofun
      · exact absurd (htoken.symm.trans h) nofun
      · exact argument.inj (htoken.symm.trans h)
    · exact fun htext ↦ absurd ((ofArgument_switch hkey (.inl htext)).symm.trans h) nofun
    · exact fun htext ↦ absurd ((ofArgument_switch hkey (.inr htext)).symm.trans h) nofun
    · rintro value rfl
      exact absurd ((ofArgument_inline hkey value).symm.trans h) nofun
  · rintro ⟨rfl, hforms⟩
    obtain ⟨key, value, hkey, htext, -⟩ | ⟨key, hkey, htext, -⟩ | htoken := ofArgument_cases text
    · exact absurd htext ((hforms key hkey).2.2 value)
    · exact (htext.elim (hforms key hkey).1 (hforms key hkey).2.1).elim
    · exact htoken

/-! ### A list of arguments -/

/-- The definition key that an argument names behind one hyphen, so that its value stands
apart. -/
def separateKey? (keys : List String) (text : String) : Option String :=
  match text.toList with
  | '-' :: key =>
    if isKey key ∧ String.ofList key ∈ keys then some (String.ofList key) else none
  | _ => none

/-- The tokens that a list of arguments stands for under definition keys. -/
def ofArguments (keys : List String) : List String → List Token
  | [] => []
  | [text] => [ofArgument text]
  | text :: value :: rest =>
    match separateKey? keys text with
    | some key => definition key value :: ofArguments keys rest
    | none => ofArgument text :: ofArguments keys (value :: rest)

theorem separateKey?_eq_some {keys : List String} {text key : String} :
    separateKey? keys text = some key ↔ isKey key.toList ∧ key ∈ keys ∧ text = "-" ++ key := by
  constructor
  · intro h
    unfold separateKey? at h
    split at h
    · rename_i chars hchars
      obtain ⟨⟨hkey, hmem⟩, h⟩ := Option.ite_none_right_eq_some.mp h
      obtain rfl := Option.some.inj h
      refine ⟨by rwa [String.toList_ofList], hmem, String.toList_injective ?_⟩
      simp [hchars]
    · cases h
  · rintro ⟨hkey, hmem, rfl⟩
    simp [separateKey?, hkey, hmem]

theorem separateKey?_nil (text : String) : separateKey? [] text = none := by
  refine Option.eq_none_iff_forall_ne_some.mpr fun key h ↦ ?_
  exact absurd (separateKey?_eq_some.mp h).2.1 List.not_mem_nil

/-- Without definition keys each argument stands for itself. -/
theorem ofArguments_nil (texts : List String) : ofArguments [] texts = texts.map ofArgument := by
  induction texts with
  | nil => rfl
  | cons text texts ih =>
    cases texts with
    | nil => rfl
    | cons value rest => rw [ofArguments, separateKey?_nil, List.map_cons, ← ih]

end ServiceHost.Token
