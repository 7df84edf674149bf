import ServiceHost.Defaults.Value

/-!
# Scalars in documents

A scalar without quotes is a truth value, an integer or a floating-point number. Digits may be
separated by single underscores. An integer has no leading zeros and fits 64 bits with a sign.

## Main definitions

* `Scalar.ofWord?` : the value that a word denotes.
-/

namespace ServiceHost.Scalar

/-- The number that a digit of the base denotes. -/
def digit? (base : Nat) (c : Char) : Option Nat :=
  let value? :=
    if '0' ≤ c ∧ c ≤ '9' then some (c.toNat - '0'.toNat)
    else if 'a' ≤ c ∧ c ≤ 'z' then some (c.toNat - 'a'.toNat + 10)
    else if 'A' ≤ c ∧ c ≤ 'Z' then some (c.toNat - 'A'.toNat + 10)
    else none
  value?.filter (· < base)

/-- The digits of a word in which single underscores stand between digits only. -/
def digits? (base : Nat) : List Char → Option (List Nat)
  | [] => none
  | [c] => (digit? base c).map fun d ↦ [d]
  | c :: '_' :: rest => do return (← digit? base c) :: (← digits? base rest)
  | c :: rest => do return (← digit? base c) :: (← digits? base rest)

/-- The number that digits denote. -/
def ofDigits (base : Nat) (digits : List Nat) : Nat := digits.foldl (fun n d ↦ base * n + d) 0

/-- The sign of a word and the word without it. -/
def splitSign : List Char → Bool × List Char
  | '-' :: rest => (true, rest)
  | '+' :: rest => (false, rest)
  | chars => (false, chars)

/-- Decimal digits without leading zeros. -/
def plainDigits? (chars : List Char) : Option (List Nat) :=
  (digits? 10 chars).filter fun digits ↦ digits.length == 1 || digits.head? != some 0

/-- An integer that fits 64 bits with a sign. -/
def bounded? (n : Int) : Option Value :=
  if -(Int.pow 2 63) ≤ n ∧ n < Int.pow 2 63 then some (.integer n) else none

/-- A decimal integer with an optional sign. -/
def decimal? (chars : List Char) : Option Value := do
  let (negative, chars) := splitSign chars
  let n : Int := ofDigits 10 (← plainDigits? chars)
  bounded? (if negative then -n else n)

/-- An integer in another base. -/
def based? : List Char → Option Value
  | '0' :: 'x' :: chars => do bounded? (ofDigits 16 (← digits? 16 chars))
  | '0' :: 'o' :: chars => do bounded? (ofDigits 8 (← digits? 8 chars))
  | '0' :: 'b' :: chars => do bounded? (ofDigits 2 (← digits? 2 chars))
  | _ => none

/-- The floating-point number nearest to a decimal. Exponents beyond those of any such number
give zero and infinity without being computed. -/
def nearestFloat (digits : List Nat) (exponent : Int) : Float :=
  let significant := digits.dropWhile (· == 0)
  let top := exponent + significant.length
  if significant.isEmpty || top < -400 then 0.0
  else if top > 400 then 1.0 / 0.0
  else Float.ofScientific (ofDigits 10 significant) (decide (exponent < 0)) exponent.natAbs

/-- The exponent of a floating-point number, with its mark. -/
def exponent? : List Char → Option Int
  | [] => some 0
  | mark :: chars => do
    guard (mark == 'e' || mark == 'E')
    let (negative, chars) := splitSign chars
    let n : Int := ofDigits 10 (← digits? 10 chars)
    return if negative then -n else n

/-- A floating-point number with an optional sign. It has a fraction or an exponent, and it is
not too great to be one. -/
def float? (chars : List Char) : Option Value := do
  let (negative, chars) := splitSign chars
  let sign (x : Float) : Float := if negative then -x else x
  if chars == ['i', 'n', 'f'] then return .float (sign (1.0 / 0.0))
  if chars == ['n', 'a', 'n'] then return .float (sign (0.0 / 0.0))
  let isMark (c : Char) : Bool := c == 'e' || c == 'E'
  let (mantissa, power) := chars.span fun c ↦ !isMark c
  let (whole, point) := mantissa.span (· != '.')
  guard (!point.isEmpty || !power.isEmpty)
  let wholeDigits ← plainDigits? whole
  let fraction ← if point.isEmpty then some [] else digits? 10 (point.drop 1)
  let exponent ← exponent? power
  let x := sign (nearestFloat (wholeDigits ++ fraction) (exponent - fraction.length))
  guard (x != 1.0 / 0.0)
  return .float x

/-- The value that a word denotes. -/
def ofWord? (chars : List Char) : Option Value :=
  match String.ofList chars with
  | "true" => some (.boolean true)
  | "false" => some (.boolean false)
  | _ => (based? chars).or ((decimal? chars).or (float? chars))

end ServiceHost.Scalar
