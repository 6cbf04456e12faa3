import PolicyReplay.Dialogue

/-!
# Accounts of dialogues

`conduct` writes log entries on the way, but no entry comes back into the dialogue: what a dialogue
comes to is a function of the peer and its state alone. `account` is that function, and the
statements about sessions and runs are about accounts.

## Key results

- `run_conduct_snd`: the account does not depend on the least severity that is written
- `account_bind`: the account of one dialogue after the other
-/

namespace PolicyReplay

variable {σ α β : Type}

/-- An account and, if it ended with a result, the account of what is done with that. -/
def Account.bind (account : Account σ α) (next : α → σ → Account σ β) : Account σ β :=
  match account.fate with
  | .returned value =>
    let rest := next value account.state
    ⟨account.steps ++ rest.steps, rest.state, rest.fate⟩
  | .crashed message => ⟨account.steps, account.state, .crashed message⟩

/-- A step in front of an account stays in front of all that follows. -/
theorem Account.bind_after (step : Step) (account : Account σ α)
    (next : α → σ → Account σ β) :
    (account.after step).bind next = (account.bind next).after step := by
  obtain ⟨steps, s, fate⟩ := account
  cases fate with
  | returned value => rfl
  | crashed message => rfl

namespace Dialogue

/-- What a dialogue with a peer comes to, whatever is written to a log meanwhile. -/
def account (peer : Peer σ) (d : Dialogue α) (s : σ) : Account σ α :=
  ((d.conduct peer s).run .trace).2

/-! ## The account of each node -/

variable (peer : Peer σ)

/-- The account of a dialogue that is over. -/
@[simp] theorem account_done (value : α) (s : σ) :
    (done value).account peer s = ⟨[], s, .returned value⟩ := rfl

@[simp] theorem account_pure (value : α) (s : σ) :
    (pure value : Dialogue α).account peer s = ⟨[], s, .returned value⟩ := rfl

/-- The account of a dialogue that crashes. -/
@[simp] theorem account_crash (message : String) (s : σ) :
    (crash message : Dialogue α).account peer s = ⟨[], s, .crashed message⟩ := rfl

/-- The account of sending, and of what follows the answer. -/
@[simp] theorem account_send (payload : Bytes) (next : Except Wire.Error Unit → Dialogue α)
    (s : σ) :
    (send payload next).account peer s =
      ((next (peer.send payload s).1).account peer (peer.send payload s).2).after
        (.sent payload (peer.send payload s).1) := rfl

/-- The account of receiving, and of what follows the answer. -/
@[simp] theorem account_receive (next : Except Wire.Error (Option Bytes) → Dialogue α)
    (s : σ) :
    (receive next).account peer s =
      ((next (peer.receive s).1).account peer (peer.receive s).2).after
        (.received (peer.receive s).1) := rfl

/-- The account of ending the connection, and of what follows the answer. -/
@[simp] theorem account_close (next : Except Wire.Error Unit → Dialogue α) (s : σ) :
    (close next).account peer s =
      ((next (peer.close s).1).account peer (peer.close s).2).after
        (.closed (peer.close s).1) := rfl

/-- To look at the clock is no step. -/
@[simp] theorem account_clock (next : Duration → Dialogue α) (s : σ) :
    (clock next).account peer s = (next (peer.clock s).1).account peer (peer.clock s).2 := rfl

/-- To log is no step. -/
@[simp] theorem account_log (entry : Log.Entry) (next : Dialogue α) (s : σ) :
    (log entry next).account peer s = next.account peer s := rfl

/-- To count is a step, which the peer does not see. -/
@[simp] theorem account_count (tally : Tally) (next : Dialogue α) (s : σ) :
    (count tally next).account peer s = (next.account peer s).after (.counted tally) := rfl

/-- The account of opening the connection, by what comes of it. -/
theorem account_connect (next : Except Wire.Error Unit → Dialogue α) (s : σ) :
    (connect next).account peer s =
      match peer.connect s with
      | (.opened, s) => ((next (.ok ())).account peer s).after (.connected .opened)
      | (.refused e, s) =>
        ((next (.error e)).account peer s).after (.connected (.refused e))
      | (.crashed message, s) => ⟨[.connected (.crashed message)], s, .crashed message⟩ := by
  -- a match in the account and one in the statement: the answer of the peer decides both
  simp only [account, conduct]
  rcases peer.connect s with ⟨_ | e | message, s'⟩
  · rfl
  · rfl
  · rfl

/-- The account of a dialogue is the same at every least severity. -/
theorem run_conduct_snd (d : Dialogue α) (s : σ) (least : Severity) :
    ((d.conduct peer s).run least).2 = d.account peer s := by
  -- no node looks at what was written, so each asks the peer for the same answer
  induction d generalizing s with
  | done value => rfl
  | crash message => rfl
  | connect next ih =>
    rw [account_connect]
    simp only [conduct]
    -- the attempt is opened or refused and goes on, or it crashes
    rcases peer.connect s with ⟨_ | e | message, s'⟩
    · exact congrArg (Account.after _) (ih (.ok ()) s')
    · exact congrArg (Account.after _) (ih (.error e) s')
    · rfl
  | send payload next ih => rw [account_send, ← ih]; rfl
  | receive next ih => rw [account_receive, ← ih]; rfl
  | close next ih => rw [account_close, ← ih]; rfl
  | clock next ih => rw [account_clock, ← ih]; rfl
  | log entry next ih => rw [account_log, ← ih]; rfl
  | count tally next ih => rw [account_count, ← ih]; rfl

/-! ## One dialogue after the other -/

/-- The account of one dialogue after the other. -/
theorem account_bind (d : Dialogue α) (f : α → Dialogue β) (s : σ) :
    (d >>= f).account peer s =
      (d.account peer s).bind fun value s => (f value).account peer s := by
  show (d.bind f).account peer s = _
  -- the second dialogue is hung on the leaves, so its steps come after those of every node
  induction d generalizing s with
  | done value => rfl
  | crash message => rfl
  | connect next ih =>
    rw [Dialogue.bind, account_connect, account_connect]
    -- only an attempt that crashes does not go on with a continuation
    rcases peer.connect s with ⟨_ | e | message, s'⟩
    · exact (congrArg (Account.after _) (ih (.ok ()) s')).trans (Account.bind_after ..).symm
    · exact (congrArg (Account.after _) (ih (.error e) s')).trans (Account.bind_after ..).symm
    · rfl
  | send payload next ih =>
    rw [Dialogue.bind, account_send, account_send, ih, Account.bind_after]
  | receive next ih =>
    rw [Dialogue.bind, account_receive, account_receive, ih, Account.bind_after]
  | close next ih =>
    rw [Dialogue.bind, account_close, account_close, ih, Account.bind_after]
  | clock next ih => rw [Dialogue.bind, account_clock, account_clock, ih]
  | log entry next ih => rw [Dialogue.bind, account_log, account_log, ih]
  | count tally next ih =>
    rw [Dialogue.bind, account_count, account_count, ih, Account.bind_after]

end Dialogue
end PolicyReplay
