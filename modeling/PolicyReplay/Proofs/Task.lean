import Mathlib.Logic.Function.Iterate
import PolicyReplay.Proofs.Account
import PolicyReplay.Proofs.Alike
import PolicyReplay.Proofs.Counters
import PolicyReplay.Proofs.Transcript

/-!
# Dialogues move by move

A task is a client in the middle of its dialogue. It moves by doing one thing, and an observation is
added to each counter it concerns in a move of its own, so others may come between any two of these.
What a task is told of the time comes from outside; everything else it is told by its own peer.

## Key results

- `Follows.work`: a task that moves stays on the way of the account of its dialogue
- `Follows.ended`: at its end a task has done what the account says
- `total_work`: what a task has counted is what it has added and what it has still to add
- `exists_advance_ended`: a task that moves on comes to its end
-/

namespace PolicyReplay

variable {σ α : Type}

/-- A client in the middle of its dialogue: what it has still to add to counters before it goes on,
what is left of the dialogue, the state of the peer, and what was done so far. -/
structure Task (σ α : Type) where
  pending : List Increment
  rest : Dialogue α
  state : σ
  steps : List Step

/-- An account with things done before all else. -/
def Account.behind (steps : List Step) (account : Account σ α) : Account σ α :=
  { account with steps := steps ++ account.steps }

/-- What is done before the rest of an account is done behind what was done earlier. -/
theorem Account.behind_after (steps : List Step) (step : Step) (account : Account σ α) :
    (account.after step).behind steps = account.behind (steps ++ [step]) := by
  simp [Account.behind, Account.after]

namespace Task

/-- A client at the beginning of its dialogue. -/
def start (d : Dialogue α) (s : σ) : Task σ α := ⟨[], d, s, []⟩

/-- What a task that has nothing to add does next, if the clock shows `time`. -/
def proceed (peer : Peer σ) (time : Duration) (task : Task σ α) : Task σ α :=
  match task.rest with
  | .done _ | .crash _ => task
  | .connect next =>
    match peer.connect task.state with
    | (.opened, s) => ⟨[], next (.ok ()), s, task.steps ++ [.connected .opened]⟩
    | (.refused e, s) => ⟨[], next (.error e), s, task.steps ++ [.connected (.refused e)]⟩
    | (.crashed message, s) =>
      ⟨[], .crash message, s, task.steps ++ [.connected (.crashed message)]⟩
  | .send payload next =>
    let (answer, s) := peer.send payload task.state
    ⟨[], next answer, s, task.steps ++ [.sent payload answer]⟩
  | .receive next =>
    let (answer, s) := peer.receive task.state
    ⟨[], next answer, s, task.steps ++ [.received answer]⟩
  | .close next =>
    let (answer, s) := peer.close task.state
    ⟨[], next answer, s, task.steps ++ [.closed answer]⟩
  | .clock next => ⟨[], next time, (peer.clock task.state).2, task.steps⟩
  | .log _ next => ⟨[], next, task.state, task.steps⟩
  | .count tally next => ⟨tally.increments, next, task.state, task.steps ++ [.counted tally]⟩

/-- One move of a task, with what it adds to a counter, if anything. -/
def work (peer : Peer σ) (time : Duration) (task : Task σ α) : Task σ α × Option Increment :=
  match task.pending with
  | increment :: pending => ({ task with pending }, some increment)
  | [] => (task.proceed peer time, none)

/-- How a task has ended, if it has. -/
def fate? (task : Task σ α) : Option (Fate α) :=
  match task.pending, task.rest with
  | [], .done value => some (.returned value)
  | [], .crash message => some (.crashed message)
  | _, _ => none

/-! ## Ends -/

/-- A task has ended if it has nothing to add and its dialogue is done or has crashed. -/
theorem fate?_eq_some_iff {task : Task σ α} {fate : Fate α} :
    task.fate? = some fate ↔ task.pending = [] ∧
      ((∃ value, task.rest = .done value ∧ fate = .returned value) ∨
        ∃ message, task.rest = .crash message ∧ fate = .crashed message) := by
  obtain ⟨pending, rest, s, steps⟩ := task
  cases pending with
  | cons increment pending => simp [fate?]
  | nil => cases rest <;> simp [fate?, eq_comm]

/-- A task that has ended does nothing more. -/
theorem work_of_ended {peer : Peer σ} {time : Duration} {task : Task σ α} {fate : Fate α}
    (h : task.fate? = some fate) : task.work peer time = (task, none) := by
  obtain ⟨hpending, hrest⟩ := fate?_eq_some_iff.1 h
  -- either way nothing is pending and the dialogue asks for nothing
  rcases hrest with ⟨value, hrest, -⟩ | ⟨message, hrest, -⟩
  · simp only [work, hpending, proceed, hrest]
  · simp only [work, hpending, proceed, hrest]

/-! ## Counting -/

/-- What a task counts next is what it has to add next. -/
theorem total_proceed (peer : Peer σ) (time : Duration) {task : Task σ α}
    (h : task.pending = []) (register : Register) :
    Increment.total (task.proceed peer time).pending register +
        Tally.total (Transcript.tallies task.steps) register =
      Tally.total (Transcript.tallies (task.proceed peer time).steps) register := by
  obtain ⟨pending, rest, s, steps⟩ := task
  subst h
  -- only a count gives the task something to add; all else leaves the totals alone
  cases rest with
  | done value => simp [proceed]
  | crash message => simp [proceed]
  | connect next =>
    simp only [proceed]
    rcases peer.connect s with ⟨_ | e | message, s'⟩
    · simp
    · simp
    · simp
  | send payload next => simp [proceed]
  | receive next => simp [proceed]
  | close next => simp [proceed]
  | clock next => simp [proceed]
  | log entry next => simp [proceed]
  | count tally next => simp [proceed, Tally.amount, Nat.add_comm]

/-- What a task has counted is what it has added to counters and what it has still to add. -/
theorem total_work (peer : Peer σ) (time : Duration) (task : Task σ α) (register : Register) :
    Increment.total (task.work peer time).2.toList register +
        Increment.total (task.work peer time).1.pending register +
        Tally.total (Transcript.tallies task.steps) register =
      Increment.total task.pending register +
        Tally.total (Transcript.tallies (task.work peer time).1.steps) register := by
  cases hpending : task.pending with
  -- with nothing pending, the dialogue goes on
  | nil =>
    have hproceed := total_proceed peer time hpending register
    simp only [work, hpending, Option.toList_none, Increment.total_nil]
    omega
  -- else the next increment leaves the pending ones and is added
  | cons increment pending =>
    simp only [work, hpending, Option.toList_some, Increment.total_cons, Increment.total_nil]
    omega

/-! ## The way of an account -/

/-- A task is on the way of an account of the same dialogue with the same peer: what was done so far
is where the account begins, and what is left does the same as the rest of the account. The account
is told the time by the peer itself, and the task, which was shown `shown`, is told it by others. -/
def Follows (peer : Peer σ) (passed : σ → Nat → Prop) (R : α → α → Prop) (account : Account σ α)
    (shown : Nat) (task : Task σ α) : Prop :=
  ∃ d shown', Dialogue.Alike R shown shown' task.rest d ∧ passed task.state shown' ∧
    account = (d.account peer task.state).behind task.steps

namespace Follows

variable {peer : Peer σ} {passed : σ → Nat → Prop} {R : α → α → Prop} {account : Account σ α}
  {shown later : Nat} {task : Task σ α}

/-- At its beginning a task is on the way of the account of its dialogue. -/
theorem start {d : Dialogue α} {s : σ} (hd : Dialogue.Alike R shown 0 d d) (hs : passed s 0) :
    Follows peer passed R (d.account peer s) shown (.start d s) :=
  ⟨d, 0, hd, hs, rfl⟩

/-- Time may pass. -/
theorem mono (h : Follows peer passed R account shown task) (hle : shown ≤ later) :
    Follows peer passed R account later task := by
  obtain ⟨d, shown', halike, hpassed, haccount⟩ := h
  exact ⟨d, shown', halike.mono hle (Nat.le_refl _), hpassed, haccount⟩

/-- A task that goes on stays on the way. -/
theorem proceed (hsteady : peer.Steady passed) {time : Duration}
    (h : Follows peer passed R account time.nanos task) :
    Follows peer passed R account time.nanos (task.proceed peer time) := by
  -- by what both dialogues do next; each answer is the same for the task and for the account
  obtain ⟨pending, rest, s, steps⟩ := task
  obtain ⟨d, shown', halike, hpassed, rfl⟩ := h
  cases halike with
  | done hR => exact ⟨_, shown', .done hR, hpassed, rfl⟩
  | crash message => exact ⟨_, shown', .crash message, hpassed, rfl⟩
  | connect hnext =>
    have hkept := hsteady.connect s shown' hpassed
    rw [Dialogue.account_connect]
    simp only [Task.proceed]
    -- a peer opens, refuses or crashes
    rcases hconnect : peer.connect s with ⟨_ | e | message, s'⟩
    · rw [hconnect] at hkept
      exact ⟨_, shown', hnext (.ok ()), hkept, Account.behind_after ..⟩
    · rw [hconnect] at hkept
      exact ⟨_, shown', hnext (.error e), hkept, Account.behind_after ..⟩
    · rw [hconnect] at hkept
      exact ⟨_, shown', .crash message, hkept, by simp [Account.behind]⟩
  | send payload hnext =>
    exact ⟨_, shown', hnext _, hsteady.send payload s shown' hpassed, Account.behind_after ..⟩
  | receive hnext =>
    exact ⟨_, shown', hnext _, hsteady.receive s shown' hpassed, Account.behind_after ..⟩
  | close hnext =>
    exact ⟨_, shown', hnext _, hsteady.close s shown' hpassed, Account.behind_after ..⟩
  | clock hnext =>
    -- the task is told the time from outside, and the account by the peer
    obtain ⟨hle, hkept⟩ := hsteady.clock s shown' hpassed
    exact ⟨_, _, hnext time _ (Nat.le_refl _) hle, hkept, rfl⟩
  | log entry entry' hnext => exact ⟨_, shown', hnext, hpassed, rfl⟩
  | count tally hnext => exact ⟨_, shown', hnext, hpassed, Account.behind_after ..⟩

/-- A task that moves stays on the way. -/
theorem work (hsteady : peer.Steady passed) {time : Duration}
    (h : Follows peer passed R account time.nanos task) :
    Follows peer passed R account time.nanos (task.work peer time).1 := by
  cases hpending : task.pending with
  -- a task that has still to add something does not touch its dialogue
  | nil =>
    simp only [Task.work, hpending]
    exact h.proceed hsteady
  | cons increment pending =>
    simp only [Task.work, hpending]
    exact h

/-- At its end a task has done what the account says, and has ended in the same way. -/
theorem ended (h : Follows peer passed R account shown task) {fate : Fate α}
    (hfate : task.fate? = some fate) :
    account.steps = task.steps ∧ account.state = task.state ∧ Fate.Alike R fate account.fate := by
  obtain ⟨d, shown', halike, -, rfl⟩ := h
  -- the dialogue of the account has ended where that of the task has
  obtain ⟨-, ⟨value, hrest, rfl⟩ | ⟨message, hrest, rfl⟩⟩ := fate?_eq_some_iff.1 hfate
  · rw [hrest] at halike
    cases halike with
    | done hR => exact ⟨List.append_nil _, rfl, .returned hR⟩
  · rw [hrest] at halike
    cases halike with
    | crash => exact ⟨List.append_nil _, rfl, .crashed message⟩

end Follows

/-! ## Coming to an end -/

/-- A task after one move. -/
def advance (peer : Peer σ) (time : Duration) (task : Task σ α) : Task σ α :=
  (task.work peer time).1

/-- A task that has something to add adds it. -/
theorem advance_pending (peer : Peer σ) (time : Duration) (task : Task σ α) :
    (advance peer time)^[task.pending.length] task = { task with pending := [] } := by
  obtain ⟨pending, rest, s, steps⟩ := task
  -- one move for each increment
  induction pending with
  | nil => rfl
  | cons increment pending ih => exact ih

/-- A task that moves on comes to its end. -/
theorem exists_advance_ended (peer : Peer σ) (time : Duration) (task : Task σ α) :
    ∃ n fate, ((advance peer time)^[n] task).fate? = some fate := by
  -- first the task adds what it has to, and then it does what its dialogue begins with
  have hgo : ∀ task : Task σ α,
      (∃ n fate, ((advance peer time)^[n]
        (({ task with pending := [] } : Task σ α).proceed peer time)).fate? = some fate) →
        ∃ n fate, ((advance peer time)^[n] task).fate? = some fate := by
    rintro task ⟨n, fate, hfate⟩
    refine ⟨n + 1 + task.pending.length, fate, ?_⟩
    rw [Function.iterate_add_apply, advance_pending]
    exact hfate
  obtain ⟨pending, rest, s, steps⟩ := task
  induction rest generalizing pending s steps with
  | done value => exact hgo _ ⟨0, _, rfl⟩
  | crash message => exact hgo _ ⟨0, _, rfl⟩
  | connect next ih =>
    -- refused or not, the dialogue goes on with the answer of the peer; a crash ends it
    refine hgo _ ?_
    simp only [proceed]
    rcases peer.connect s with ⟨_ | e | message, s'⟩
    · exact ih (.ok ()) [] s' _
    · exact ih (.error e) [] s' _
    · exact ⟨0, _, rfl⟩
  | send payload next ih => exact hgo _ (ih _ [] _ _)
  | receive next ih => exact hgo _ (ih _ [] _ _)
  | close next ih => exact hgo _ (ih _ [] _ _)
  | clock next ih => exact hgo _ (ih time [] _ _)
  | log entry next ih => exact hgo _ (ih [] _ _)
  -- the increments of the tally are pending then, and are added before anything else
  | count tally next ih => exact hgo _ (ih tally.increments _ _)

end Task
end PolicyReplay
