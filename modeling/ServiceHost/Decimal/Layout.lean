import ServiceHost.Decimal.Shortest

/-!
# Layouts of decimals

A decimal is written with all its places, or with a power of ten when it would be too long. The
layout of a report and the plain layout are two choices of one record.
-/

namespace ServiceHost.Decimal

/-- How a decimal is written. -/
structure Layout where
  /-- The greatest number of places before the point that are written out, if there is a bound. -/
  maxLeading : Option Nat
  /-- The greatest number of zeros after the point that are written out, if there is a bound. -/
  maxZeros : Option Nat
  /-- An integer is written with a point and a zero. -/
  pointZero : Bool
  /-- A power of ten that is not negative has a sign. -/
  plusSign : Bool
  /-- Which of two equally near decimals is written. -/
  tie : Tie
  deriving Repr

/-- Reports write up to sixteen places before the point and four zeros after it, and keep the
point of an integer and the sign of a power. Ties go to even digits. -/
def Layout.report : Layout := ⟨some 16, some 4, true, true, .even⟩

/-- The plain layout writes all places and no needless point. Ties go away from zero. -/
def Layout.plain : Layout := ⟨none, none, false, false, .up⟩

/-- The text of a number of zeros. -/
def zeros (n : Nat) : String := "".pushn '0' n

/-- The first digit, a point and the other digits, with the power of ten of the first digit. -/
def scientific (layout : Layout) (digits : String) (point : Int) : String :=
  let chars := digits.toList
  let fraction := if chars.length ≤ 1 then "" else "." ++ String.ofList (chars.drop 1)
  let mark := if layout.plusSign && decide (1 ≤ point) then "e+" else "e"
  String.ofList (chars.take 1) ++ fraction ++ mark ++ toString (point - 1)

/-- The digits with a decimal point before the place of the given number. -/
def positional (layout : Layout) (digits : String) (point : Int) : String :=
  let chars := digits.toList
  if point ≤ 0 then "0." ++ zeros (-point).toNat ++ digits
  else if chars.length ≤ point.toNat then
    digits ++ zeros (point.toNat - chars.length) ++ if layout.pointZero then ".0" else ""
  else
    String.ofList (chars.take point.toNat) ++ "." ++ String.ofList (chars.drop point.toNat)

/-- A decimal without sign in the given layout. -/
def render (layout : Layout) (d : Decimal) : String :=
  let digits := d.digitText
  let point : Int := digits.length + d.exponent
  let tooLong := layout.maxLeading.any fun bound ↦ point > bound
  let tooSmall := layout.maxZeros.any fun bound ↦ point < -(bound : Int)
  if d.digits ≠ 0 ∧ (tooLong ∨ tooSmall) then scientific layout digits point
  else positional layout digits point

/-- A floating-point number in the given layout. -/
def renderFloat (layout : Layout) (x : Float) : String :=
  let sign (negative : Bool) := if negative then "-" else ""
  match FloatClass.ofFloat layout.tie x with
  | .nan => "NaN"
  | .infinite negative => sign negative ++ "inf"
  | .finite negative magnitude => sign negative ++ magnitude.render layout

end ServiceHost.Decimal
