import Mathlib.Algebra.Ring.Nat

/-!
# Number ranges and clock readings

The ranges of the fixed-width numbers, and durations, monotonic instants and wall-clock readings in
nanoseconds.  An `Instant` counts from the earliest representable one, so that the range of
`2 ^ 64` seconds is the same for a signed and for an unsigned second counter; the code only looks
at differences of instants.
-/

namespace FluxDns

/-- A length of time in nanoseconds. -/
abbrev Duration := Nat

/-- A monotonic clock reading in nanoseconds. -/
abbrev Instant := Nat

def second : Duration := 1000000000

/-- The number of values of a `u64`. -/
def u64Size : Nat := 2 ^ 64

/-- One more than the largest `i64`. -/
def i64Bound : Nat := 2 ^ 63

/-- The number of values of a `u32`. -/
def u32Size : Nat := 2 ^ 32

def Duration.asSecs (duration : Duration) : Nat := duration / second

/-- Addition of a duration, refused when the result is not representable. -/
def Instant.checkedAdd (instant : Instant) (duration : Duration) : Option Instant :=
  if instant + duration < u64Size * second then some (instant + duration) else none

/-- Subtraction of a duration, refused when the result is not representable. -/
def Instant.checkedSub (instant : Instant) (duration : Duration) : Option Instant :=
  if duration ≤ instant then some (instant - duration) else none

def Instant.saturatingDurationSince (instant earlier : Instant) : Duration := instant - earlier

/-- A point of time after which an operation gives up. -/
structure Deadline where
  instant : Instant

/-- A deadline expires at its own instant. -/
def Deadline.isExpired (deadline : Deadline) (now : Instant) : Bool :=
  decide (deadline.instant ≤ now)

end FluxDns
