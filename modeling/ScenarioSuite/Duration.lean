import ScenarioSuite.Json.Basic

/-!
# Spans of time

A span is whole seconds and the nanoseconds of the last, broken one.
-/

namespace ScenarioSuite

/-- A span of time. -/
structure Duration where
  seconds : Nat
  nanoseconds : Nat
deriving Repr, DecidableEq

namespace Duration

/-- No time. -/
def zero : Duration := ⟨0, 0⟩

/-- So many milliseconds. -/
def ofMilliseconds (n : Nat) : Duration :=
  ⟨n / 1000, n % 1000 * 1000000⟩

/-- The span in JSON. -/
def toJson (d : Duration) : Json :=
  Json.objectOf [("secs", .ofNat d.seconds), ("nanos", .ofNat d.nanoseconds)]

end Duration

end ScenarioSuite
