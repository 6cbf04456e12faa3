import PolicyReplay.Proofs.Log.Filtering
import PolicyReplay.Proofs.Run.Interleaving

/-!
# What sessions log

Whatever the peer answers and whatever the clock shows, a dialogue unfolds in one of the ways that
its constructors allow. `Unfolds` lists them with what is logged on the way, so a statement about it
holds for a dialogue that is conducted at a stretch as well as for one that others come between.

## Key results

- `Dialogue.unfolds_conduct`: a dialogue that is conducted unfolds
- `Dialogue.Unfolds.of_bind`: one dialogue after the other
- `session_unfolds`: a session names its connection first, and logs nothing of its end
- `worker_unfolds`: the last that is logged of a worker is its outcome
-/

namespace PolicyReplay

variable {σ α β : Type}

/-! ## Entries -/

namespace Log.Entry

/-- The client that an entry is about, if it names one. -/
def client? (entry : Entry) : Option String := entry.fields.lookup "worker"

/-- The names of the entries that stand neither at the beginning or the end of something nor for
what came of a worker. -/
def quietNames : List String :=
  ["WORKLOAD_COMPILED", "WORKLOAD_REJECTED", "POLICY_COMPILED", "POLICY_SKIPPED",
    "WORKER_CONNECTED", "HANDSHAKE_ACCEPTED", "HANDSHAKE_REJECTED", "SESSION_CLOSE_FAILED"]

/-- An entry tells of something on the way. -/
def Quiet (entry : Entry) : Prop := entry.event ∈ quietNames

/-- An entry is quiet by its name alone. -/
theorem quiet_of_mem {severity : Severity} {event : String} {fields : Fields}
    (h : event ∈ quietNames) : Quiet ⟨severity, event, fields⟩ := h

/-- An entry tells of something on the way of a client. -/
def QuietOf (client : String) (entry : Entry) : Prop :=
  entry.Quiet ∧ entry.client? = some client

end Log.Entry

/-! ## Ways to unfold -/

namespace Dialogue

/-- A way in which a dialogue can unfold: what is done on the connection, what is logged, and how it
ends. -/
inductive Unfolds : Dialogue α → List Step → List Log.Entry → Fate α → Prop
  | done (value : α) : Unfolds (.done value) [] [] (.returned value)
  | crash (message : String) : Unfolds (.crash message) [] [] (.crashed message)
  | opened (h : Unfolds (next (.ok ())) steps entries fate) :
    Unfolds (.connect next) (.connected .opened :: steps) entries fate
  | refused (e : Wire.Error) (h : Unfolds (next (.error e)) steps entries fate) :
    Unfolds (.connect next) (.connected (.refused e) :: steps) entries fate
  | crashed (message : String) :
    Unfolds (.connect next) [.connected (.crashed message)] [] (.crashed message)
  | sent (payload : Bytes) (answer : Except Wire.Error Unit)
    (h : Unfolds (next answer) steps entries fate) :
    Unfolds (.send payload next) (.sent payload answer :: steps) entries fate
  | received (answer : Except Wire.Error (Option Bytes))
    (h : Unfolds (next answer) steps entries fate) :
    Unfolds (.receive next) (.received answer :: steps) entries fate
  | closed (answer : Except Wire.Error Unit) (h : Unfolds (next answer) steps entries fate) :
    Unfolds (.close next) (.closed answer :: steps) entries fate
  | told (time : Duration) (h : Unfolds (next time) steps entries fate) :
    Unfolds (.clock next) steps entries fate
  | logged (entry : Log.Entry) (h : Unfolds next steps entries fate) :
    Unfolds (.log entry next) steps (entry :: entries) fate
  | counted (tally : Tally) (h : Unfolds next steps entries fate) :
    Unfolds (.count tally next) (.counted tally :: steps) entries fate

/-- A dialogue that is conducted unfolds. -/
theorem unfolds_conduct (peer : Peer σ) (d : Dialogue α) (s : σ) :
    Unfolds d (d.account peer s).steps ((d.conduct peer s).run .trace).1
      (d.account peer s).fate := by
  -- induction on the dialogue; each step of the account is a way of the relation, with the answer
  -- that the peer gave in the state so far
  induction d generalizing s with
  | done value => exact .done value
  | crash message => exact .crash message
  | connect next ih =>
    simp only [account, conduct]
    -- only a connection that is opened or refused leaves the dialogue something to go on with
    rcases peer.connect s with ⟨_ | e | message, s'⟩
    · exact .opened (ih (.ok ()) s')
    · exact .refused e (ih (.error e) s')
    · exact .crashed message
  | send payload next ih => exact .sent payload _ (ih _ _)
  | receive next ih => exact .received _ (ih _ _)
  | close next ih => exact .closed _ (ih _ _)
  | clock next ih => exact .told _ (ih _ _)
  | log entry next ih =>
    simp only [conduct, Logging.run_bind, Logging.run_write_trace]
    exact .logged entry (ih s)
  | count tally next ih => exact .counted tally (ih s)

/-- Every dialogue unfolds in some way. -/
theorem exists_unfolds (d : Dialogue α) : ∃ steps entries fate, Unfolds d steps entries fate := by
  -- such as the one with a peer that agrees to everything
  let peer : Peer Unit := {
    connect := fun s => (.opened, s)
    send := fun _ s => (.ok (), s)
    receive := fun s => (.ok none, s)
    close := fun s => (.ok (), s)
    clock := fun s => (.zero, s) }
  exact ⟨_, _, _, unfolds_conduct peer d ()⟩

/-- How one dialogue after the other unfolds: either the first one crashes, or both unfold. -/
inductive UnfoldsThen (d : Dialogue α) (f : α → Dialogue β) :
    List Step → List Log.Entry → Fate β → Prop
  | crashed (message : String) (first : Unfolds d steps entries (.crashed message)) :
    UnfoldsThen d f steps entries (.crashed message)
  | passed (value : α) (first : Unfolds d steps₁ entries₁ (.returned value))
    (second : Unfolds (f value) steps₂ entries₂ fate) :
    UnfoldsThen d f (steps₁ ++ steps₂) (entries₁ ++ entries₂) fate

section Bind

variable {d d' : Dialogue α} {f : α → Dialogue β} {steps : List Step} {entries : List Log.Entry}
  {fate : Fate β}

/-- What comes before the first dialogue comes before both. -/
theorem UnfoldsThen.behind (h : UnfoldsThen d f steps entries fate) (steps₀ : List Step)
    (entries₀ : List Log.Entry) (hd : ∀ {steps entries fate}, Unfolds d steps entries fate →
      Unfolds d' (steps₀ ++ steps) (entries₀ ++ entries) fate) :
    UnfoldsThen d' f (steps₀ ++ steps) (entries₀ ++ entries) fate := by
  -- a crash of the first dialogue is one of both, and otherwise the second comes after it
  cases h with
  | crashed message first => exact .crashed message (hd first)
  | passed value first second =>
    rw [← List.append_assoc, ← List.append_assoc]
    exact .passed value (hd first) second

/-- Where one dialogue comes after the other, they unfold one after the other. -/
theorem Unfolds.of_bind (h : Unfolds (d >>= f) steps entries fate) :
    UnfoldsThen d f steps entries fate := by
  replace h : Unfolds (d.bind f) steps entries fate := h
  -- by the first dialogue: what it does at its root comes before all that unfolds behind it
  induction d generalizing steps entries with
  | done value => exact .passed value (.done value) h
  | crash message =>
    cases h
    exact .crashed message (.crash message)
  | connect next ih =>
    cases h with
    | opened h => exact (ih _ h).behind [_] [] .opened
    | refused e h => exact (ih _ h).behind [_] [] (.refused e)
    | crashed message => exact .crashed message (.crashed message)
  | send payload next ih =>
    cases h with
    | sent _ answer h => exact (ih _ h).behind [_] [] (.sent payload answer)
  | receive next ih =>
    cases h with
    | received answer h => exact (ih _ h).behind [_] [] (.received answer)
  | close next ih =>
    cases h with
    | closed answer h => exact (ih _ h).behind [_] [] (.closed answer)
  | clock next ih =>
    cases h with
    | told time h => exact (ih _ h).behind [] [] (.told time)
  | log entry next ih =>
    cases h with
    | logged _ h => exact (ih h).behind [] [entry] (.logged entry)
  | count tally next ih =>
    cases h with
    | counted _ h => exact (ih h).behind [_] [] (.counted tally)

end Bind

/-! ## Entries of one kind -/

/-- However a dialogue unfolds, the entries that it logs are of one kind. -/
def LogsOnly (P : Log.Entry → Prop) (d : Dialogue α) : Prop :=
  ∀ steps entries fate, Unfolds d steps entries fate → ∀ entry ∈ entries, P entry

variable {P : Log.Entry → Prop}

/-- Two dialogues that log entries of one kind do so one after the other. -/
theorem LogsOnly.bind {d : Dialogue α} {f : α → Dialogue β} (hd : LogsOnly P d)
    (hf : ∀ value, LogsOnly P (f value)) : LogsOnly P (d >>= f) := by
  intro steps entries fate h
  cases h.of_bind with
  | crashed message first => exact hd _ _ _ first
  -- if both unfold, an entry is of the first or of the second
  | passed value first second =>
    exact List.forall_mem_append.mpr ⟨hd _ _ _ first, hf value _ _ _ second⟩

/-- A dialogue that is over logs nothing. -/
theorem LogsOnly.pure (value : α) : LogsOnly P (pure value : Dialogue α) := by
  intro steps entries fate h
  cases h
  exact fun _ hmem => nomatch hmem

/-- A dialogue that crashes logs nothing. -/
theorem LogsOnly.crash (message : String) : LogsOnly P (crash message : Dialogue α) := by
  intro steps entries fate h
  cases h
  exact fun _ hmem => nomatch hmem

/-- To send logs nothing. -/
theorem LogsOnly.sent (payload : Bytes) : LogsOnly P (sent payload) := by
  intro steps entries fate h
  cases h with
  | sent _ answer h =>
    cases h
    exact fun _ hmem => nomatch hmem

/-- To receive logs nothing. -/
theorem LogsOnly.received : LogsOnly P received := by
  intro steps entries fate h
  cases h with
  | received answer h =>
    cases h
    exact fun _ hmem => nomatch hmem

/-- To end the connection logs nothing. -/
theorem LogsOnly.closed : LogsOnly P closed := by
  intro steps entries fate h
  cases h with
  | closed answer h =>
    cases h
    exact fun _ hmem => nomatch hmem

/-- To look at the clock logs nothing. -/
theorem LogsOnly.now : LogsOnly P now := by
  intro steps entries fate h
  cases h with
  | told time h =>
    cases h
    exact fun _ hmem => nomatch hmem

/-- To count logs nothing. -/
theorem LogsOnly.counted (tally : Tally) : LogsOnly P (counted tally) := by
  intro steps entries fate h
  cases h with
  | counted _ h =>
    cases h
    exact fun _ hmem => nomatch hmem

/-- To log an entry logs that entry. -/
theorem LogsOnly.logged {entry : Log.Entry} (hentry : P entry) : LogsOnly P (logged entry) := by
  intro steps entries fate h
  cases h with
  | logged _ h =>
    cases h
    exact List.forall_mem_singleton.mpr hentry

end Dialogue

namespace Run

open Dialogue (Unfolds LogsOnly)
open Log.Entry (Quiet QuietOf quiet_of_mem)

/-! ## Sessions -/

section Session

variable (id : String)

/-- A round trip logs nothing. -/
theorem logsOnly_roundTrip {P : Log.Entry → Prop} (payload : Bytes) :
    LogsOnly P (roundTrip payload) := by
  -- the payload was not sent, or it was and the answer decides
  refine (LogsOnly.sent payload).bind fun answer => ?_
  split
  · exact .pure _
  · refine (LogsOnly.counted _).bind fun _ => LogsOnly.received.bind fun answer => ?_
    split
    · exact .pure _
    · exact .pure _
    · exact (LogsOnly.counted _).bind fun _ => .pure _

/-- A handshake logs how it came out, under the name of the client. -/
theorem logsOnly_handshake (setup : Command) : LogsOnly (QuietOf id) (handshake id setup) := by
  refine (logsOnly_roundTrip _).bind fun answer => ?_
  split
  · exact .pure _
  -- the controller accepted the setup or rejected it, which is logged in both cases
  · split
    · exact (LogsOnly.logged ⟨quiet_of_mem (by decide), rfl⟩).bind fun _ => .pure _
    · exact (LogsOnly.counted _).bind fun _ =>
        (LogsOnly.logged ⟨quiet_of_mem (by decide), rfl⟩).bind fun _ => .pure _

/-- A replay logs nothing. -/
theorem logsOnly_replay {P : Log.Entry → Prop} (latency : Latency) (commands : List Command) :
    LogsOnly P (replay latency commands) := by
  -- induction on the commands; each of them has its own latency to start from
  induction commands generalizing latency with
  | nil => exact .pure _
  | cons command rest ih =>
    refine LogsOnly.now.bind fun before => (logsOnly_roundTrip _).bind fun answer => ?_
    -- a failed round trip ends the replay, and so does a sum of latencies that is too large
    split
    · exact .pure _
    · refine LogsOnly.now.bind fun after => ?_
      split
      · exact .crash _
      · exact ih _

/-- A conversation logs what its handshake does. -/
theorem logsOnly_conversation (setup : Option Command) (commands : List Command) :
    LogsOnly (QuietOf id) (conversation id setup commands) := by
  unfold conversation
  split
  · exact logsOnly_replay _ _
  -- the replay comes after the handshake, and only if that was accepted
  · refine (logsOnly_handshake id _).bind fun acknowledged => ?_
    split
    · exact .pure _
    · exact logsOnly_replay _ _

/-- To take leave logs nothing. -/
theorem logsOnly_takeLeave {P : Log.Entry → Prop} (latency : Latency) :
    LogsOnly P (takeLeave latency) := by
  refine (LogsOnly.sent _).bind fun answer => ?_
  split
  · exact .pure _
  · refine (LogsOnly.counted _).bind fun _ => LogsOnly.closed.bind fun answer => ?_
    split
    · exact .pure _
    · exact .pure _

/-- To break off logs at most that the connection could not be ended. -/
theorem logsOnly_breakOff (e : Error) : LogsOnly (QuietOf id) (breakOff id e) := by
  refine LogsOnly.closed.bind fun answer => ?_
  split
  · exact (LogsOnly.logged ⟨quiet_of_mem (by decide), rfl⟩).bind fun _ => .pure _
  · exact .pure _

/-- The entry with which a client names its connection. -/
def connectedEntry (endpoint id : String) : Log.Entry :=
  Log.Event.workerConnected.entry [("worker", id), ("endpoint", endpoint)]

/-- What a client logs of its session is of its own, and on a connection that was opened it begins
with the name of that. -/
structure Named (endpoint id : String) (steps : List Step) (entries : List Log.Entry) : Prop where
  quiet : ∀ entry ∈ entries, QuietOf id entry
  connected : .connected .opened ∈ steps → connectedEntry endpoint id ∈ entries

/-- However a session unfolds, what it logs is its own, and it names a connection that was opened.
-/
theorem session_unfolds {endpoint : String} {setup : Option Command} {commands : List Command}
    {steps : List Step} {entries : List Log.Entry} {fate : Fate (Except Error Latency)}
    (h : Unfolds (session endpoint id setup commands) steps entries fate) :
    Named endpoint id steps entries := by
  cases h.of_bind with
  -- the only step before the answer to the opening is the opening itself
  | crashed message first =>
    cases first with
    | opened h => cases h
    | refused e h => cases h
    | crashed message => exact ⟨fun _ hmem => (nomatch hmem), fun hmem => by simp at hmem⟩
  | passed answer first second =>
    cases first with
    | refused e h =>
      cases h
      cases second
      exact ⟨fun _ hmem => (nomatch hmem), fun hmem => by simp at hmem⟩
    | opened h =>
      cases h
      -- the connection is open, and so its name comes first
      cases second with
      | logged entry h =>
        -- behind the name there is the conversation, and then the leave or the breaking off
        refine ⟨List.forall_mem_cons.mpr ⟨⟨quiet_of_mem (by decide), rfl⟩, ?_⟩,
          fun _ => List.mem_cons_self⟩
        refine (logsOnly_conversation id setup commands).bind (fun result => ?_) _ _ _ h
        split
        · exact logsOnly_takeLeave _
        · exact logsOnly_breakOff id _

end Session

/-! ## Workers -/

/-- The entry that tells what came of a worker. -/
def Outcome.entry : Outcome → Log.Entry
  | completed report => Log.Event.workerComplete.entry
      [("worker", toString report.worker), ("requests", toString report.latency.count),
        ("sum_latency_us", toString report.latency.sum.micros)]
  | failed worker code reason => Log.Event.workerFailed.entry
      [("worker", toString worker), ("code", code), ("reason", reason)]

/-- What the run logs when it takes note of a worker. -/
def notesOf (id : Nat) (fate : Fate (Except Error WorkerReport)) : List Log.Entry :=
  ((join id fate).run .trace).1

/-- What is logged of a worker tells of its session and then of what came of it. -/
def Reported (endpoint : String) (id : Nat) (outcome : Outcome) (steps : List Step)
    (entries : List Log.Entry) : Prop :=
  outcome.worker = id ∧
    ∃ talk, entries = talk ++ [outcome.entry] ∧ Named endpoint (toString id) steps talk

/-- What came of a worker is the last that is logged of it. If the worker crashed, the run does
so. -/
theorem worker_unfolds {endpoint : String} {id : Nat} {setup : Option Command}
    {commands : List Command} {steps : List Step} {entries : List Log.Entry}
    {fate : Fate (Except Error WorkerReport)}
    (h : Unfolds (worker endpoint id setup commands) steps entries fate) :
    Reported endpoint id (outcomeOf id fate) steps (entries ++ notesOf id fate) := by
  -- to count a failure or the requests opens no connection
  have hcounted {tally : Tally} {steps : List Step}
      (hmem : .connected .opened ∈ steps ++ [.counted tally]) : .connected .opened ∈ steps := by
    simpa using hmem
  cases h.of_bind with
  | crashed message first => exact ⟨rfl, entries, rfl, session_unfolds _ first⟩
  | passed result first second =>
    obtain ⟨hquiet, hconnected⟩ := session_unfolds _ first
    -- either way one tally is counted and one entry logged, which is what came of the worker
    cases result with
    | error e =>
      cases second with
      | counted tally second =>
        cases second with
        | logged entry second =>
          cases second
          exact ⟨rfl, _, List.append_nil _, hquiet, fun hmem => hconnected (hcounted hmem)⟩
    | ok latency =>
      cases second with
      | counted tally second =>
        cases second with
        | logged entry second =>
          cases second
          exact ⟨rfl, _, List.append_nil _, hquiet, fun hmem => hconnected (hcounted hmem)⟩

/-! ## The load phase -/

/-- What is logged of the load phase, by how it ends. -/
def LoadTold (scope : Log.Scope) (entries : List Log.Entry) : Fate (Except Error Unit) → Prop
  | .crashed _ => ∃ talk, (∀ entry ∈ talk, entry.Quiet) ∧ entries = scope.opened :: talk
  | .returned (.ok _) => ∃ talk elapsed, (∀ entry ∈ talk, entry.Quiet) ∧
      entries = scope.opened :: (talk ++ [scope.completed elapsed []])
  | .returned (.error _) => ∃ talk reason, (∀ entry ∈ talk, entry.Quiet) ∧
      entries = scope.opened :: (talk ++ [scope.failed reason])

/-- The load phase logs its beginning, its session, and its end unless it crashes. -/
theorem loadPhase_unfolds {endpoint : String} {elapsed : Duration} {setup : Option Command}
    {commands : List Command} {steps : List Step} {entries : List Log.Entry}
    {fate : Fate (Except Error Unit)}
    (h : Unfolds (loadPhase endpoint elapsed setup commands) steps entries fate) :
    LoadTold (loadScope endpoint commands) entries fate := by
  cases h.of_bind with
  | crashed message first =>
    cases first with
    | logged entry first => cases first
  | passed value first second =>
    cases first with
    | logged entry first =>
      cases first
      -- the beginning of the phase is logged, and then comes its session
      cases second.of_bind with
      | crashed message first =>
        exact ⟨_, fun _ hmem => ((session_unfolds _ first).quiet _ hmem).1, rfl⟩
      | passed result first second =>
        have hnamed := session_unfolds _ first
        -- how the session ended decides with which entry the phase ends
        cases result with
        | error e =>
          cases second with
          | logged entry second =>
            cases second
            exact ⟨_, _, fun _ hmem => (hnamed.quiet _ hmem).1, rfl⟩
        | ok latency =>
          cases second with
          | logged entry second =>
            cases second
            exact ⟨_, _, fun _ hmem => (hnamed.quiet _ hmem).1, rfl⟩

end Run
end PolicyReplay
