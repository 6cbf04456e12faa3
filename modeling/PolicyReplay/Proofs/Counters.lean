import Mathlib.Algebra.GroupWithZero.Nat
import PolicyReplay.Counters

/-!
# Counters as sums

Each observation adds to some of the counters and reads none of them, so a counter is the sum of
what was added to it, modulo the size of its word. What an observation adds to one counter is
added at once, but additions to two counters are two steps.

## Key results

- `foldl_bump_increments`, `foldl_bump_flatMap`: an observation is a few additions, one after the
  other
- `read_foldl_add`, `toNat_read_ofTallies`: a counter is a sum
- `ext_read`: counters are equal if each of them is
-/

namespace PolicyReplay

/-- The name of one counter. -/
inductive Register where
  | framesSent | framesReceived | bytesSent
  | requestsCompleted | workerFailures | handshakeRejections
  deriving DecidableEq, Repr

/-- An addition to one counter. -/
structure Increment where
  register : Register
  amount : Nat
  deriving DecidableEq, Repr

/-- How much an addition adds to a counter; nothing, if it is made to another one. -/
def Increment.into (increment : Increment) (register : Register) : Nat :=
  if increment.register = register then increment.amount else 0

/-- How much additions together add to a counter. -/
def Increment.total (increments : List Increment) (register : Register) : Nat :=
  (increments.map (·.into register)).sum

/-- No additions add nothing. -/
@[simp] theorem Increment.total_nil (register : Register) : total [] register = 0 := rfl

/-- The first addition and the others add up. -/
@[simp] theorem Increment.total_cons (increment : Increment) (increments : List Increment)
    (register : Register) :
    total (increment :: increments) register =
      increment.into register + total increments register := by
  rw [total, List.map_cons, List.sum_cons, total]

/-- Additions one after the other add up. -/
@[simp] theorem Increment.total_append (first rest : List Increment) (register : Register) :
    total (first ++ rest) register = total first register + total rest register := by
  rw [total, List.map_append, List.sum_append, total, total]

namespace Tally

/-- The additions of an observation, in order. -/
def increments : Tally → List Increment
  | frameSent size => [⟨.framesSent, 1⟩, ⟨.bytesSent, size⟩]
  | frameReceived => [⟨.framesReceived, 1⟩]
  | requestsCompleted count => [⟨.requestsCompleted, count⟩]
  | workerFailed => [⟨.workerFailures, 1⟩]
  | handshakeRejected => [⟨.handshakeRejections, 1⟩]

/-- How much an observation adds to a counter. -/
def amount (tally : Tally) (register : Register) : Nat := Increment.total tally.increments register

/-- How much observations together add to a counter. -/
def total (tallies : List Tally) (register : Register) : Nat :=
  (tallies.map (·.amount register)).sum

/-- No observations add nothing. -/
@[simp] theorem total_nil (register : Register) : total [] register = 0 := rfl

/-- The first observation and the others add up. -/
@[simp] theorem total_cons (tally : Tally) (tallies : List Tally) (register : Register) :
    total (tally :: tallies) register = tally.amount register + total tallies register := by
  rw [total, List.map_cons, List.sum_cons, total]

/-- Observations one after the other add up. -/
@[simp] theorem total_append (first rest : List Tally) (register : Register) :
    total (first ++ rest) register = total first register + total rest register := by
  rw [total, List.map_append, List.sum_append, total, total]

/-- What the observations of items add is the sum over the items. -/
theorem total_flatMap {α : Type} (f : α → List Tally) (items : List α) (register : Register) :
    total (items.flatMap f) register = (items.map fun item => total (f item) register).sum := by
  induction items with
  | nil => rfl
  | cons item items ih =>
    rw [List.flatMap_cons, total_append, ih, List.map_cons, List.sum_cons]

/-- What observations add is what their additions add. -/
theorem total_increments (tallies : List Tally) (register : Register) :
    Increment.total (tallies.flatMap increments) register = total tallies register := by
  -- by induction on the observations: what each adds is defined by its additions
  induction tallies with
  | nil => rfl
  | cons tally tallies ih =>
    rw [List.flatMap_cons, Increment.total_append, ih, total_cons, amount]

end Tally

namespace Counters

/-- The value of one counter. -/
def read (c : Counters) : Register → UInt64
  | .framesSent => c.framesSent
  | .framesReceived => c.framesReceived
  | .bytesSent => c.bytesSent
  | .requestsCompleted => c.requestsCompleted
  | .workerFailures => c.workerFailures
  | .handshakeRejections => c.handshakeRejections

/-- Counters are equal if each of them is. -/
theorem ext_read {c d : Counters} (h : ∀ register, c.read register = d.read register) : c = d := by
  -- there are six counters, and each has its register
  obtain ⟨_, _, _, _, _, _⟩ := c
  obtain ⟨_, _, _, _, _, _⟩ := d
  rw [mk.injEq]
  exact ⟨h .framesSent, h .framesReceived, h .bytesSent, h .requestsCompleted, h .workerFailures,
    h .handshakeRejections⟩

/-- Add to one counter. -/
def bump (c : Counters) (increment : Increment) : Counters :=
  let n := UInt64.ofNat increment.amount
  match increment.register with
  | .framesSent => { c with framesSent := c.framesSent + n }
  | .framesReceived => { c with framesReceived := c.framesReceived + n }
  | .bytesSent => { c with bytesSent := c.bytesSent + n }
  | .requestsCompleted => { c with requestsCompleted := c.requestsCompleted + n }
  | .workerFailures => { c with workerFailures := c.workerFailures + n }
  | .handshakeRejections => { c with handshakeRejections := c.handshakeRejections + n }

/-- An addition changes its own counter, and adds nothing to the others. -/
theorem read_bump (c : Counters) (increment : Increment) (register : Register) :
    (c.bump increment).read register =
      c.read register + UInt64.ofNat (increment.into register) := by
  obtain ⟨target, amount⟩ := increment
  -- the two registers are the same or they are not
  cases target <;> cases register <;> simp [bump, read, Increment.into]

/-- An observation is its additions, one after the other. -/
theorem foldl_bump_increments (c : Counters) (tally : Tally) :
    tally.increments.foldl bump c = c.add tally := by
  cases tally <;> rfl

/-- Observations are their additions, one after the other. -/
theorem foldl_bump_flatMap (c : Counters) (tallies : List Tally) :
    (tallies.flatMap Tally.increments).foldl bump c = tallies.foldl add c := by
  rw [List.foldl_flatMap]
  simp only [foldl_bump_increments]

/-- A counter after additions is what it was before and the sum of what they add. -/
theorem read_foldl_bump (c : Counters) (increments : List Increment) (register : Register) :
    (increments.foldl bump c).read register =
      c.read register + UInt64.ofNat (Increment.total increments register) := by
  -- by induction on the additions, from whatever counters those before them have left
  induction increments generalizing c with
  | nil => simp
  | cons increment increments ih =>
    rw [List.foldl_cons, ih, read_bump, Increment.total_cons, UInt64.ofNat_add, UInt64.add_assoc]

/-- A counter after observations is what it was before and the sum of what they add. -/
theorem read_foldl_add (c : Counters) (tallies : List Tally) (register : Register) :
    (tallies.foldl add c).read register =
      c.read register + UInt64.ofNat (Tally.total tallies register) := by
  rw [← foldl_bump_flatMap, read_foldl_bump, Tally.total_increments]

/-- Counters that began with nothing are sums, unless a sum does not fit its word. -/
theorem toNat_read_ofTallies {tallies : List Tally} {register : Register}
    (h : Tally.total tallies register < UInt64.size) :
    ((ofTallies tallies).read register).toNat = Tally.total tallies register := by
  -- a run begins with every counter at zero
  have hzero : ({} : Counters).read register = 0 := by cases register <;> rfl
  rw [ofTallies, read_foldl_add, hzero, UInt64.zero_add, UInt64.toNat_ofNat_of_lt' h]

end Counters
end PolicyReplay
