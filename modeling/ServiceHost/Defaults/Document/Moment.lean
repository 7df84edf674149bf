import ServiceHost.Defaults.Document.Basic
import ServiceHost.Defaults.Scalar

/-!
# Dates and times of documents

A moment is a day of the calendar, a time of day, or both, and then perhaps the distance from
universal time. It is read into its numbers and written in one form: a capital T between day and
time, no zeros at the end of a fraction, and nine places of a fraction at most.

A moment stands in a document as it is, or as the text under a reserved key of a table, and is read
by the same rules in both places.

## Main definitions

* `Moment` : a day, a time of day, or both.
* `Moment.parser` : the parser of moments.
* `Moment.ofText?` : the moment under the reserved key.
* `Moment.render` : the written form.
-/

namespace ServiceHost.Document

/-- A day of the calendar. -/
structure Date where
  /-- The year, in four digits. -/
  year : Nat
  /-- The month, from one. -/
  month : Nat
  /-- The day of the month, from one. -/
  day : Nat
  deriving DecidableEq, Repr

/-- A time of day. -/
structure Time where
  /-- The hour. -/
  hour : Nat
  /-- The minute. -/
  minute : Nat
  /-- The second, which is sixty when one is inserted. -/
  second : Nat
  /-- The fraction of the second in billionths. -/
  nanosecond : Nat
  deriving DecidableEq, Repr

/-- The distance of a time from universal time. -/
inductive Offset where
  /-- The time is universal time. -/
  | universal
  /-- The time is so many minutes ahead. -/
  | minutes (ahead : Int)
  deriving DecidableEq, Repr

/-- A day, a time of day, or both. -/
inductive Moment where
  /-- A day. -/
  | day (date : Date)
  /-- A time of day. -/
  | timeOfDay (time : Time)
  /-- A time on a day, which may be one of universal time. -/
  | dateTime (date : Date) (time : Time) (offset : Option Offset)
  deriving DecidableEq, Repr

/-! ### Reading -/

namespace Moment

open ServiceHost.Parser

/-- Reads a number of exactly so many digits. -/
def number (places : Nat) : Parser Char Nat :=
  match places with
  | 0 => return 0
  | places + 1 => do
    let high ← any.filterMap (Scalar.digit? 10)
    let low ← number places
    return high * 10 ^ places + low

/-- Reads a number of two digits within bounds. -/
def twoDigits (least greatest : Nat) : Parser Char Nat :=
  (number 2).filter fun n ↦ decide (least ≤ n ∧ n ≤ greatest)

/-- The year has a day between February and March. -/
def isLeapYear (year : Nat) : Bool := year % 4 == 0 && (year % 100 != 0 || year % 400 == 0)

/-- The number of days of a month. -/
def daysInMonth (year month : Nat) : Nat :=
  if month = 2 then if isLeapYear year then 29 else 28
  else if month = 4 ∨ month = 6 ∨ month = 9 ∨ month = 11 then 30
  else 31

/-- Reads a day that the calendar has. -/
def dateParser : Parser Char Date :=
  filter (fun date ↦ decide (date.day ≤ daysInMonth date.year date.month)) do
    let year ← number 4
    let _ ← exactly '-'
    let month ← twoDigits 1 12
    let _ ← exactly '-'
    let day ← twoDigits 1 31
    return ⟨year, month, day⟩

/-- The billionths in a fraction with the given digits. Digits after the ninth are dropped. -/
def nanoseconds (digits : List Nat) : Nat :=
  Scalar.ofDigits 10 ((digits ++ List.replicate 9 0).take 9)

/-- Reads a fraction in billionths. -/
def fractionParser : Parser Char Nat := do
  let _ ← exactly '.'
  let digits ← (any.filterMap (Scalar.digit? 10)).many1
  return nanoseconds digits

/-- Reads a time of day. -/
def timeParser : Parser Char Time := do
  let hour ← twoDigits 0 23
  let _ ← exactly ':'
  let minute ← twoDigits 0 59
  let _ ← exactly ':'
  let second ← twoDigits 0 60
  let fraction ← fractionParser.optional
  return ⟨hour, minute, second, fraction.getD 0⟩

/-- Reads the minutes of a distance from universal time, which is less than a day. -/
def distanceParser : Parser Char Nat := do
  let hours ← twoDigits 0 23
  let _ ← exactly ':'
  let minutes ← twoDigits 0 59
  return 60 * hours + minutes

/-- Reads the distance from universal time. -/
def offsetParser : Parser Char Offset :=
  (fun _ ↦ .universal) <$> (exactly 'Z' <|> exactly 'z') <|>
    (fun (n : Nat) ↦ .minutes n) <$> (exactly '+' *> distanceParser) <|>
    (fun (n : Nat) ↦ .minutes (-n)) <$> (exactly '-' *> distanceParser)

/-- Reads what stands after a day: a time of day, and perhaps the distance from universal
time. -/
def timeOnDayParser : Parser Char (Time × Option Offset) := do
  let _ ← exactly 'T' <|> exactly 't' <|> exactly ' '
  let time ← timeParser
  let offset ← offsetParser.optional
  return (time, offset)

/-- Reads a moment. -/
def parser : Parser Char Moment :=
  (do
    let date ← dateParser
    let rest ← timeOnDayParser.optional
    return match rest with
      | none => .day date
      | some (time, offset) => .dateTime date time offset) <|> .timeOfDay <$> timeParser

/-- The reserved key of a table that stands for a moment. -/
def key : String := "$__toml_private_datetime"

/-- The moment that a text under the reserved key denotes. -/
def ofText? (text : String) : Option Moment :=
  ((parser <* atEnd).run (Cursor.start text.toList)).map Match.value

end Moment

/-! ### Writing -/

/-- The digits of a number, filled up to a width with zeros in front. -/
def padded (width n : Nat) : String :=
  let digits := toString n
  "".pushn '0' (width - digits.length) ++ digits

/-- The written form of a day. -/
def Date.render (d : Date) : String :=
  padded 4 d.year ++ "-" ++ padded 2 d.month ++ "-" ++ padded 2 d.day

/-- The written form of a fraction, which is nothing where the fraction is zero. -/
def renderFraction (nanosecond : Nat) : String :=
  if nanosecond = 0 then ""
  else
    "." ++ String.ofList ((padded 9 nanosecond).toList.reverse.dropWhile (· == '0')).reverse

/-- The written form of a time of day. -/
def Time.render (t : Time) : String :=
  padded 2 t.hour ++ ":" ++ padded 2 t.minute ++ ":" ++ padded 2 t.second ++
    renderFraction t.nanosecond

/-- The written form of a distance from universal time. No distance has a plus sign. -/
def Offset.render : Offset → String
  | .universal => "Z"
  | .minutes ahead =>
    (if ahead < 0 then "-" else "+") ++ padded 2 (ahead.natAbs / 60) ++ ":" ++
      padded 2 (ahead.natAbs % 60)

/-- The written form of a moment. -/
def Moment.render : Moment → String
  | .day date => date.render
  | .timeOfDay time => time.render
  | .dateTime date time offset =>
    date.render ++ "T" ++ time.render ++ (offset.map Offset.render).getD ""

end ServiceHost.Document
