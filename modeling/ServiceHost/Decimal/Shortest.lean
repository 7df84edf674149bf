/-!
# The shortest decimal of a floating-point number

A decimal reads back as a number when it lies in the interval of reals that round to the number.
Of all decimals that do, the shortest one has the fewest digits, and of several such the nearest
to the number is taken. On the grid of the decimals with a given number of digits only the two
neighbours of the number have to be looked at. Where both are equally near, a rule for ties
decides.

## Main definitions

* `Binary` : a positive number as a fraction with its rounding interval.
* `Decimal` : digits and a power of ten.
* `Tie` : which of two equally near decimals is taken.
* `Binary.shortest` : the shortest decimal that reads back.
-/

namespace ServiceHost

/-- A decimal number: its digits, read as one number, times a power of ten. -/
structure Decimal where
  /-- The digits. -/
  digits : Nat
  /-- The power of ten. -/
  exponent : Int
  deriving DecidableEq, Repr, Inhabited

/-- Which of two neighbours on a grid is taken when both are equally near. -/
inductive Tie where
  /-- The one with even digits. -/
  | even
  /-- The one that is greater in magnitude. -/
  | up
  deriving DecidableEq, Repr

/-- Of two equally near neighbours the smaller one is taken, which has the given digits. -/
def Tie.takesBelow (tie : Tie) (digits : Nat) : Bool :=
  match tie with
  | .even => digits % 2 == 0
  | .up => false

/-- A positive binary number with the interval of reals that round to it. The number and the ends
of the interval have one denominator. -/
structure Binary where
  /-- The numerator of the number. -/
  value : Nat
  /-- The numerator of the lower end. -/
  lower : Nat
  /-- The numerator of the upper end. -/
  upper : Nat
  /-- The denominator. -/
  denominator : Nat
  /-- The ends belong to the interval. -/
  closed : Bool
  deriving Repr

namespace Binary

/-- The number with the given significand and exponent of two. The gap below a power of two is
half as wide as the gap above it. -/
def ofParts (significand : Nat) (exponent : Int) (narrowBelow : Bool) : Binary :=
  let scale := Nat.pow 2 (exponent - 2).toNat
  { value := 4 * significand * scale
    lower := (4 * significand - if narrowBelow then 1 else 2) * scale
    upper := (4 * significand + 2) * scale
    denominator := Nat.pow 2 (2 - exponent).toNat
    closed := significand % 2 == 0 }

/-- The finite number with the given exponent field and fraction field. -/
def ofFields (exponentField fraction : Nat) : Binary :=
  if exponentField = 0 then ofParts fraction (-1074) false
  else ofParts (fraction + Nat.pow 2 52) (exponentField - 1075)
    (fraction == 0 && exponentField > 1)

/-- The digits times the power of ten, compared with the fraction, lie in the interval. -/
def contains (b : Binary) (d : Decimal) : Bool :=
  let point := d.digits * Nat.pow 10 d.exponent.toNat * b.denominator
  let scale := Nat.pow 10 (-d.exponent).toNat
  if b.closed then b.lower * scale ≤ point && point ≤ b.upper * scale
  else b.lower * scale < point && point < b.upper * scale

/-- The number of digits before the decimal point, or the negated number of zeros after it. -/
def magnitude (b : Binary) : Int :=
  if b.denominator ≤ b.value then (Nat.toDigits 10 (b.value / b.denominator)).length
  else 1 - ((Nat.toDigits 10 (b.denominator / b.value)).length : Int)

/-- The decimal of the grid with the given number of digits that reads back, if there is one. Of
two neighbours that read back the nearer is taken. -/
def onGrid? (b : Binary) (tie : Tie) (places : Nat) : Option Decimal :=
  let exponent := b.magnitude - places
  let numerator := b.value * Nat.pow 10 (-exponent).toNat
  let denominator := b.denominator * Nat.pow 10 exponent.toNat
  let below : Decimal := ⟨numerator / denominator, exponent⟩
  let above : Decimal := ⟨numerator / denominator + 1, exponent⟩
  let twice := 2 * (numerator % denominator)
  let takeBelow := twice < denominator || (twice == denominator && tie.takesBelow below.digits)
  match b.contains below && below.digits != 0, b.contains above with
  | true, true => some (if takeBelow then below else above)
  | true, false => some below
  | false, true => some above
  | false, false => none

/-- The shortest decimal that reads back as the number. Seventeen digits always suffice. -/
def shortest (b : Binary) (tie : Tie) : Decimal :=
  ((List.range 17).findSome? fun places ↦ b.onGrid? tie (places + 1)).getD ⟨0, 0⟩

end Binary

namespace Decimal

/-- The decimal without zeros at the end of its digits, looked at a given number of times. -/
def trim : Nat → Decimal → Decimal
  | 0, d => d
  | steps + 1, d =>
    if d.digits % 10 = 0 ∧ d.digits ≠ 0 then trim steps ⟨d.digits / 10, d.exponent + 1⟩ else d

/-- The digits as a text. -/
def digitText (d : Decimal) : String := String.ofList (Nat.toDigits 10 d.digits)

end Decimal

/-- What a floating-point number is, apart from how it is written. -/
inductive FloatClass where
  /-- Not a number. -/
  | nan
  /-- Infinite, with its sign. -/
  | infinite (negative : Bool)
  /-- Finite, with its sign and the shortest decimal of its magnitude. -/
  | finite (negative : Bool) (magnitude : Decimal)
  deriving DecidableEq, Repr

/-- Takes a floating-point number apart. -/
def FloatClass.ofFloat (tie : Tie) (x : Float) : FloatClass :=
  let bits := x.toBits.toNat
  let negative := bits / Nat.pow 2 63 == 1
  let exponentField := bits / Nat.pow 2 52 % Nat.pow 2 11
  let fraction := bits % Nat.pow 2 52
  if exponentField = 2047 then if fraction = 0 then .infinite negative else .nan
  else if exponentField = 0 ∧ fraction = 0 then .finite negative ⟨0, 0⟩
  else .finite negative (((Binary.ofFields exponentField fraction).shortest tie).trim 20)

end ServiceHost
