import PolicyReplay.Counters
import PolicyReplay.Fate
import PolicyReplay.Log.Logging
import PolicyReplay.Wire.Peer

/-!
# Dialogues

What a client does on one connection, as a tree: each node is one thing that it does, with a
continuation for every answer. `conduct` is the only interpreter; it asks a peer for the answers
and keeps an account of what was done. A statement about every behaviour of the other side is a
statement about every peer.
-/

namespace PolicyReplay

/-- What a client does on one connection until it has a result. -/
inductive Dialogue (α : Type) where
  | done (value : α)
  /-- The client ends without a result. -/
  | crash (message : String)
  | connect (next : Except Wire.Error Unit → Dialogue α)
  | send (payload : Bytes) (next : Except Wire.Error Unit → Dialogue α)
  | receive (next : Except Wire.Error (Option Bytes) → Dialogue α)
  | close (next : Except Wire.Error Unit → Dialogue α)
  | clock (next : Duration → Dialogue α)
  | log (entry : Log.Entry) (next : Dialogue α)
  | count (tally : Tally) (next : Dialogue α)

namespace Dialogue

/-- One dialogue after the other. -/
protected def bind (d : Dialogue α) (f : α → Dialogue β) : Dialogue β :=
  match d with
  | done value => f value
  | crash message => crash message
  | connect next => connect fun answer => (next answer).bind f
  | send payload next => send payload fun answer => (next answer).bind f
  | receive next => receive fun answer => (next answer).bind f
  | close next => close fun answer => (next answer).bind f
  | clock next => clock fun time => (next time).bind f
  | log entry next => log entry (next.bind f)
  | count tally next => count tally (next.bind f)

instance : Monad Dialogue where
  pure := done
  bind := Dialogue.bind

/-- Open the connection. -/
def opened : Dialogue (Except Wire.Error Unit) := connect done

/-- Send a payload. -/
def sent (payload : Bytes) : Dialogue (Except Wire.Error Unit) := send payload done

/-- Receive a payload. -/
def received : Dialogue (Except Wire.Error (Option Bytes)) := receive done

/-- End the connection. -/
def closed : Dialogue (Except Wire.Error Unit) := close done

/-- Look at the clock. -/
def now : Dialogue Duration := clock done

/-- Log an entry. -/
def logged (entry : Log.Entry) : Dialogue Unit := log entry (done ())

/-- Count an observation. -/
def counted (tally : Tally) : Dialogue Unit := count tally (done ())

end Dialogue

/-- One thing that was done on a connection, with the answer to it. -/
inductive Step where
  | connected (answer : Opening)
  | sent (payload : Bytes) (answer : Except Wire.Error Unit)
  | received (answer : Except Wire.Error (Option Bytes))
  | closed (answer : Except Wire.Error Unit)
  | counted (tally : Tally)
  deriving Repr

/-- What was done on a connection, where that left the other side, and how it ended. -/
structure Account (σ α : Type) where
  steps : List Step
  state : σ
  fate : Fate α

namespace Account

/-- An account with one thing done before all else. -/
def after (step : Step) (account : Account σ α) : Account σ α :=
  { account with steps := step :: account.steps }

end Account

/-- Conduct a dialogue with a peer. -/
def Dialogue.conduct (peer : Peer σ) : Dialogue α → σ → Logging (Account σ α)
  | done value, s => pure ⟨[], s, .returned value⟩
  | crash message, s => pure ⟨[], s, .crashed message⟩
  | connect next, s =>
    match peer.connect s with
    | (.opened, s) => (conduct peer (next (.ok ())) s).map (·.after (.connected .opened))
    | (.refused e, s) => (conduct peer (next (.error e)) s).map (·.after (.connected (.refused e)))
    | (.crashed message, s) => pure ⟨[.connected (.crashed message)], s, .crashed message⟩
  | send payload next, s =>
    let (answer, s) := peer.send payload s
    (conduct peer (next answer) s).map (·.after (.sent payload answer))
  | receive next, s =>
    let (answer, s) := peer.receive s
    (conduct peer (next answer) s).map (·.after (.received answer))
  | close next, s =>
    let (answer, s) := peer.close s
    (conduct peer (next answer) s).map (·.after (.closed answer))
  | clock next, s =>
    let (time, s) := peer.clock s
    conduct peer (next time) s
  | log entry next, s => do
    Logging.write entry
    conduct peer next s
  | count tally next, s => (conduct peer next s).map (·.after (.counted tally))

end PolicyReplay
