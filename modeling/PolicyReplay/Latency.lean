import PolicyReplay.Duration

/-!
# Latencies

The sum and the number of measured latencies. Both are exact; the mean goes through doubles.
-/

namespace PolicyReplay

/-- What is kept of measured latencies. -/
structure Latency where
  sum : Duration := .zero
  count : Nat := 0
  deriving DecidableEq, Repr

namespace Latency

/-- Counts are words of 64 bits. -/
def countBound : Nat := 0x10000000000000000

/-- Take in one latency. -/
def record (l : Latency) (d : Duration) : Except Duration.Overflow Latency := do
  let sum ← l.sum.add d
  if l.count + 1 < countBound then return ⟨sum, l.count + 1⟩ else throw {}

/-- Take in latencies one after the other. -/
def recordAll (l : Latency) (ds : List Duration) : Except Duration.Overflow Latency :=
  ds.foldlM record l

/-- The mean, if there is any latency. -/
def mean (l : Latency) : Except Duration.Overflow (Option Duration) :=
  if l.count = 0 then .ok none
  else (Duration.ofSeconds (l.sum.toSeconds / (UInt64.ofNat l.count).toFloat)).map some

end Latency
end PolicyReplay
