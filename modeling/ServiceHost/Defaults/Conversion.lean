import ServiceHost.ConfigurationError
import ServiceHost.Decimal.Layout
import ServiceHost.Defaults.Basic
import ServiceHost.Defaults.Value
import ServiceHost.Text.Case
import ServiceHost.Text.Quoted

/-!
# Conversions of values

A setting is a text, a number of seconds or a start mode. Scalars of other kinds are converted where
they have such a meaning, and what cannot be converted is reported with the key of the setting.

## Main definitions

* `Value.toText?`, `Value.toSeconds?`, `Value.toName?` : what a value stands for.
* `Value.Table.toDefaults` : the defaults that a table states.
-/

namespace ServiceHost

namespace Value

/-- An integer fits 64 bits with a sign. -/
def isWord (n : Int) : Bool := decide (-(Int.pow 2 63) ≤ n ∧ n < Int.pow 2 63)

/-- What a value is, as an error says it. -/
def describe : Value → String
  | null => "unit value"
  | boolean value => "boolean `" ++ toString value ++ "`"
  | integer value =>
    (if isWord value then "64-bit integer `" else "128-bit integer `") ++ toString value ++ "`"
  | float value => "floating point `" ++ Decimal.renderFloat .plain value ++ "`"
  | string text => "string " ++ Text.quoted text
  | sequence => "sequence"
  | table _ => "map"

/-- The text of a scalar. -/
def toText? : Value → Option String
  | boolean value => some (toString value)
  | integer value => some (toString value)
  | float value => some (Decimal.renderFloat .plain value)
  | string text => some text
  | _ => none

/-- The greatest number of seconds. -/
def maxSeconds : Nat := Nat.pow 2 64 - 1

/-- A number of seconds written in decimal digits. -/
def secondsOfDigits? (text : String) : Option Nat := do
  let chars := text.toList
  let chars := if chars.head? = some '+' then chars.drop 1 else chars
  guard (!chars.isEmpty && chars.all Char.isDigit)
  let n := chars.foldl (fun n c ↦ 10 * n + (c.toNat - '0'.toNat)) 0
  guard (n ≤ maxSeconds)
  return n

/-- A number of seconds in a text: a word for a truth value, or digits. -/
def secondsOfText? (text : String) : Option Nat :=
  let word := Text.fold text
  if ["true", "on", "yes"].contains word then some 1
  else if ["false", "off", "no"].contains word then some 0
  else secondsOfDigits? text

/-- The number of seconds that a value stands for. A fraction is rounded, a half away from zero,
and one out of bounds becomes the nearest bound. -/
def toSeconds? : Value → Option Nat
  | boolean value => some value.toNat
  | integer value => if 0 ≤ value ∧ value ≤ maxSeconds then some value.toNat else none
  | float value => some value.round.toUInt64.toNat
  | string text => secondsOfText? text
  | _ => none

/-- What was expected where a value is no number of seconds. -/
def expectedSeconds : Value → String
  | integer _ => "an unsigned 64 bit or less integer"
  | _ => "an integer"

/-- The name that a value gives to a start mode: the text, or the only key of a table. -/
def toName? : Value → Option String
  | string text => some text
  | table [(key, _)] => some key
  | _ => none

/-! ### Settings in a table -/

/-- The text of a setting. -/
def Table.text (fields : Table) (key : String) : Except DefaultsError String :=
  let value := (fields.get? key).getD .null
  match value.toText? with
  | some text => .ok text
  | none => .error (.mismatch value.describe "a string" key)

/-- The seconds of a setting. -/
def Table.seconds (fields : Table) (key : String) : Except DefaultsError Nat :=
  let value := (fields.get? key).getD .null
  match value.toSeconds? with
  | some n => .ok n
  | none => .error (.mismatch value.describe value.expectedSeconds key)

/-- The start mode of a setting, named in any letter case. -/
def Table.startMode (fields : Table) (key : String) : Except DefaultsError StartMode :=
  match ((fields.get? key).getD .null).toName? with
  | none => .error .unnamedStartMode
  | some text =>
    match StartMode.ofName? (Text.fold text) with
    | some mode => .ok mode
    | none => .error (.unknownStartMode text)

/-- The defaults that a table states. -/
def Table.toDefaults (fields : Table) : Except DefaultsError Defaults :=
  return {
    name := ← fields.text "name"
    displayName := ← fields.text "display_name"
    description := ← fields.text "description"
    instanceName := ← fields.text "instance_name"
    startMode := ← fields.startMode "start_mode"
    startTimeoutSeconds := ← fields.seconds "start_timeout_secs"
    stopTimeoutSeconds := ← fields.seconds "stop_timeout_secs" }

end Value

end ServiceHost
