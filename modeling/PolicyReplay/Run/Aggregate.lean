import PolicyReplay.Run.Worker

/-!
# The aggregate of a run

The mean latency of a run is the mean of the means of the workers that measured any latency, so
each of them weighs the same.
-/

namespace PolicyReplay.Run

/-- What a run amounts to. -/
structure Aggregate where
  mean : Option Duration
  elapsed : Duration
  /-- How many workers measured any latency. -/
  reporting : Nat
  failed : Nat
  requests : Nat
  deriving DecidableEq, Repr

namespace Aggregate

/-- The means of the workers that measured any latency. -/
def means (reports : List WorkerReport) : Except Duration.Overflow (List Duration) := do
  let means ← reports.mapM fun report => report.latency.mean
  return means.filterMap id

/-- The mean of means, if there are any. -/
def meanOf (means : List Duration) : Except Duration.Overflow (Option Duration) :=
  if means.isEmpty then .ok none
  else
    let sum := (means.map Duration.toSeconds).foldl (· + ·) 0
    (Duration.ofSeconds (sum / (UInt64.ofNat means.length).toFloat)).map some

/-- A total of counts, unless it does not fit its word. -/
def total (counts : List Nat) : Except Duration.Overflow Nat :=
  let sum := counts.foldl (· + ·) 0
  if sum < Latency.countBound then .ok sum else .error {}

/-- The aggregate of the outcomes of a run that took `elapsed`. -/
def ofOutcomes (outcomes : List Outcome) (elapsed : Duration) :
    Except Duration.Overflow Aggregate := do
  let reports := outcomes.filterMap Outcome.report?
  let means ← means reports
  let mean ← meanOf means
  let requests ← total (reports.map (·.latency.count))
  return {
    mean, elapsed, requests
    reporting := means.length
    failed := outcomes.countP Outcome.isFailed }

/-- Whether any latency was measured. -/
def hasData (aggregate : Aggregate) : Bool := aggregate.mean.isSome

end Aggregate
end PolicyReplay.Run
