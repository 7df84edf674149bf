/-!
# Durations

A duration is a number of whole seconds and of nanoseconds below one second.
-/

namespace ServiceHost

/-- A length of time. -/
structure Duration where
  /-- The whole seconds. -/
  seconds : Nat
  /-- The nanoseconds beyond the whole seconds. -/
  nanoseconds : Nat := 0
  deriving DecidableEq, Repr, Inhabited

namespace Duration

/-- A duration of whole seconds. -/
def ofSeconds (seconds : Nat) : Duration := ⟨seconds, 0⟩

/-- The duration in seconds, as the sum of the two rounded parts. -/
def toFloat (d : Duration) : Float :=
  d.seconds.toUInt64.toFloat + d.nanoseconds.toUInt64.toFloat / 1000000000.0

end Duration

end ServiceHost
