import PolicyReplay.Decimal.Binary

/-!
# Durations

A duration is a natural number of nanoseconds below 2^64 seconds. Sums that reach the bound
overflow. A duration as a double is its whole seconds plus its remaining nanoseconds divided by
10^9, each step rounded; a double as a duration is rounded to nanoseconds, a half to the even one.
-/

namespace PolicyReplay

/-- A span of time in nanoseconds. -/
structure Duration where
  nanos : Nat
  nanos_lt : nanos < 0x10000000000000000 * 1000000000
  deriving DecidableEq, Repr

namespace Duration

/-- A result that is no duration, or a count that does not fit its word. -/
structure Overflow where
  deriving DecidableEq, Repr

/-- The overflow in words. -/
def Overflow.message : String := "overflow when adding durations"

/-- So many nanoseconds, if that is a duration. -/
def ofNanos (n : Nat) : Except Overflow Duration :=
  if h : n < 0x10000000000000000 * 1000000000 then .ok ⟨n, h⟩ else .error {}

/-- No time. -/
def zero : Duration := ⟨0, by decide⟩

/-- The sum, unless it overflows. -/
def add (a b : Duration) : Except Overflow Duration := ofNanos (a.nanos + b.nanos)

/-- The time from `a` to a later point `b`; none passes when `b` is not later. -/
def since (b a : Duration) : Duration := ⟨b.nanos - a.nanos, by have := b.nanos_lt; omega⟩

/-- Whole seconds. -/
def seconds (d : Duration) : Nat := d.nanos / 1000000000

/-- The nanoseconds beyond whole seconds. -/
def subsecond (d : Duration) : Nat := d.nanos % 1000000000

/-- Whole milliseconds. -/
def millis (d : Duration) : Nat := d.nanos / 1000000

/-- Whole microseconds. -/
def micros (d : Duration) : Nat := d.nanos / 1000

/-- The duration in seconds as a double. -/
def toSeconds (d : Duration) : Float :=
  (UInt64.ofNat d.seconds).toFloat + (UInt64.ofNat d.subsecond).toFloat / 1e9

/-- So many seconds as a duration, unless there is none. -/
def ofSeconds (x : Float) : Except Overflow Duration :=
  match Decimal.Binary.ofFloat? x with
  | none => .error {}
  | some b =>
    let nanos := b.scaled 9
    if b.negative && nanos ≠ 0 then .error {} else ofNanos nanos

end Duration
end PolicyReplay
