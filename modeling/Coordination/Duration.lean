import Coordination.Text.Decimal

/-!
# Durations

A length of time in nanoseconds, at most 2^64 - 1 seconds and 999,999,999 nanoseconds. Arithmetic
stops at that limit. The text form takes the largest unit of which there is at least one and shows
no more decimals than it needs.
-/

namespace Coordination

/-- The nanoseconds of a second. -/
def Duration.perSecond : Nat := 1000000000

/-- The greatest length of time, in nanoseconds. -/
def Duration.limit : Nat := UInt64.size * Duration.perSecond - 1

/-- A length of time. -/
structure Duration where
  /-- The length in nanoseconds. -/
  nanos : Nat
  /-- There is a greatest length. -/
  le_limit : nanos ≤ Duration.limit
  deriving DecidableEq

namespace Duration

/-- So many nanoseconds, or the greatest length if that is less. -/
def ofNanos (n : Nat) : Duration := ⟨min n limit, Nat.min_le_right _ _⟩

/-- So many seconds and nanoseconds. -/
def ofParts (seconds nanoseconds : Nat) : Duration := 
  ofNanos (seconds * perSecond + nanoseconds)

/-- So many milliseconds. -/
def ofMillis (n : Nat) : Duration := ofNanos (n * 1000000)

/-- No time at all. -/
def zero : Duration := ofNanos 0

/-- The greatest length of time. -/
def greatest : Duration := ⟨limit, Nat.le_refl _⟩

/-- The whole seconds. -/
def seconds (d : Duration) : Nat := d.nanos / perSecond

/-- The nanoseconds beyond the whole seconds. -/
def subsecond (d : Duration) : Nat := d.nanos % perSecond

/-- A multiple, or the greatest length if that is less. -/
def times (d : Duration) (k : Nat) : Duration := ofNanos (d.nanos * k)

/-- The shorter of two lengths. -/
def min (a b : Duration) : Duration := if a.nanos ≤ b.nanos then a else b

@[simp] theorem nanos_ofNanos (n : Nat) : (ofNanos n).nanos = Min.min n limit := rfl

theorem nanos_min (a b : Duration) : (min a b).nanos = Min.min a.nanos b.nanos := by
  unfold min
  split <;> omega

/-! ## Text -/

/-- The decimals of `part` units out of `10 ^ places`, without the zeros at the end. -/
def decimals (part places : Nat) : List Char :=
  ((Text.Decimal.filled places '0' (Text.Decimal.digits part)).reverse.dropWhile (· == '0')).reverse

/-- A length of `whole` units and `part` of `10 ^ places`. -/
def inUnit (whole part places : Nat) (unit : String) : String :=
  let fraction := decimals part places
  Text.Decimal.natural whole
    ++ (if fraction.isEmpty then "" else "." ++ String.ofList fraction) ++ unit

/-- The text form of a length of time. -/
def text (d : Duration) : String :=
  if perSecond ≤ d.nanos then inUnit d.seconds d.subsecond 9 "s"
  else if 1000000 ≤ d.nanos then inUnit (d.nanos / 1000000) (d.nanos % 1000000) 6 "ms"
  else if 1000 ≤ d.nanos then inUnit (d.nanos / 1000) (d.nanos % 1000) 3 "µs"
  else inUnit d.nanos 0 0 "ns"

end Duration

end Coordination
