import PolicyReplay.Proofs.Alike
import PolicyReplay.Run.Worker

/-!
# Sessions and the clock

A session looks at the clock to measure its commands, and nothing else depends on the time. The
latencies together are never longer than what the clock has shown, so on a clock that does not go
back their sum is always a duration; and whether their number fits its word is no matter of time.

## Key results

- `record_eq`: when a latency that is short enough can be taken in
- `session_alike`, `worker_alike`: what a session or a worker does is no matter of time
-/

namespace PolicyReplay.Run

open Dialogue (Alike)

variable {shown shown' : Nat}

/-- Results that are the same up to the durations measured. -/
def SameCount (result result' : Except Error Latency) : Prop :=
  result.map (·.count) = result'.map (·.count)

/-- Reports that are the same up to the durations measured. -/
def SameReport (result result' : Except Error WorkerReport) : Prop :=
  result.map (fun report => (report.worker, report.latency.count)) =
    result'.map (fun report => (report.worker, report.latency.count))

/-- Results with the same number of latencies are both errors, and then the same one, or neither. -/
theorem SameCount.cases {result result' : Except Error Latency} (h : SameCount result result') :
    (∃ e, result = .error e ∧ result' = .error e) ∨
      ∃ latency latency', result = .ok latency ∧ result' = .ok latency' ∧
        latency.count = latency'.count := by
  -- both are errors or both are results, or else nothing could be the same
  cases result with
  | error e =>
    cases result' with
    | error e' => exact .inl ⟨e, rfl, by rw [Except.error.inj h]⟩
    | ok latency' => cases h
  | ok latency =>
    cases result' with
    | error e' => cases h
    | ok latency' => exact .inr ⟨latency, latency', rfl, rfl, Except.ok.inj h⟩

/-! ## Latencies -/

/-- A latency that keeps the sum a duration is taken in if there is room for one more. -/
theorem record_eq (latency : Latency) (time : Duration)
    (h : latency.sum.nanos + time.nanos < 0x10000000000000000 * 1000000000) :
    latency.record time =
      if latency.count + 1 < Latency.countBound then
        .ok ⟨⟨latency.sum.nanos + time.nanos, h⟩, latency.count + 1⟩
      else .error {} := by
  simp only [Latency.record, Duration.add, Duration.ofNanos, h, ↓reduceDIte, bind, Except.bind]
  rfl

/-! ## The parts of a session -/

/-- A round trip looks at no clock. -/
theorem roundTrip_alike (payload : Bytes) :
    Alike (· = ·) shown shown' (roundTrip payload) (roundTrip payload) := by
  refine .send payload fun answer => ?_
  cases answer with
  | error e => exact .done rfl
  | ok _ =>
    refine .count _ (.receive fun answer => ?_)
    -- the answer is an error, the end of the connection or a frame, and each is dealt with alike
    rcases answer with e | _ | answer
    · exact .done rfl
    · exact .done rfl
    · exact .count _ (.done rfl)

/-- A handshake looks at no clock. -/
theorem handshake_alike (id : String) (setup : Command) :
    Alike (· = ·) shown shown' (handshake id setup) (handshake id setup) := by
  refine (roundTrip_alike setup.bytes).bind ?_
  rintro later later' (e | answer) _ - - rfl
  · exact .done rfl
  · dsimp only
    split
    · exact .log _ _ (.done rfl)
    · exact .count _ (.log _ _ (.done rfl))

/-- Commands are replayed in the same way, whatever was measured before, as long as it was not
longer than what the clock has shown. -/
theorem replay_alike (commands : List Command) {latency latency' : Latency}
    (hcount : latency.count = latency'.count) (hsum : latency.sum.nanos ≤ shown)
    (hsum' : latency'.sum.nanos ≤ shown') :
    Alike SameCount shown shown' (replay latency commands) (replay latency' commands) := by
  -- induction on the commands that are left; the sums grow with what the clocks show
  induction commands generalizing latency latency' shown shown' with
  | nil => exact .done (congrArg Except.ok hcount)
  | cons command rest ih =>
    refine .clock fun before before' hbefore hbefore' => (roundTrip_alike command.bytes).bind ?_
    rintro later later' (e | answer) _ hlater hlater' rfl
    · exact .done rfl
    · refine .clock fun after after' hafter hafter' => ?_
      -- the latency was measured after what was measured before, on a clock that does not go back
      have hbound : latency.sum.nanos + (after.since before).nanos ≤ after.nanos := by
        simp only [Duration.since]
        omega
      have hbound' : latency'.sum.nanos + (after'.since before').nanos ≤ after'.nanos := by
        simp only [Duration.since]
        omega
      simp only [Dialogue.bind]
      rw [record_eq latency _ (Nat.lt_of_le_of_lt hbound after.nanos_lt),
        record_eq latency' _ (Nat.lt_of_le_of_lt hbound' after'.nanos_lt), ← hcount]
      -- whether there is room for one more depends on the count only, which is the same
      by_cases hroom : latency.count + 1 < Latency.countBound
      · rw [if_pos hroom, if_pos hroom]
        exact ih rfl hbound hbound'
      · rw [if_neg hroom, if_neg hroom]
        exact .crash _

/-- A conversation is the same at all times, up to the durations measured. -/
theorem conversation_alike (id : String) (setup : Option Command) (commands : List Command) :
    Alike SameCount shown shown' (conversation id setup commands)
      (conversation id setup commands) := by
  cases setup with
  | none => exact replay_alike commands rfl (Nat.zero_le _) (Nat.zero_le _)
  | some command =>
    refine (handshake_alike id command).bind ?_
    rintro later later' (e | _) _ - - rfl
    · exact .done rfl
    -- after the handshake nothing has been measured
    · exact replay_alike commands rfl (Nat.zero_le _) (Nat.zero_le _)

/-- Leave is taken in the same way, whatever was measured. -/
theorem takeLeave_alike {latency latency' : Latency} (hcount : latency.count = latency'.count) :
    Alike SameCount shown shown' (takeLeave latency) (takeLeave latency') := by
  refine .send _ fun answer => ?_
  cases answer with
  | error e => exact .done rfl
  | ok _ =>
    refine .count _ (.close fun answer => ?_)
    cases answer with
    | error e => exact .done rfl
    | ok _ => exact .done (congrArg Except.ok hcount)

/-- A connection is broken off in the same way at all times. -/
theorem breakOff_alike (id : String) (e : Error) :
    Alike SameCount shown shown' (breakOff id e) (breakOff id e) := by
  refine .close fun answer => ?_
  cases answer with
  | error cause => exact .log _ _ (.done rfl)
  | ok _ => exact .done rfl

/-! ## Sessions and workers -/

/-- What a session does, and how many latencies it measures, is no matter of time. -/
theorem session_alike (endpoint id : String) (setup : Option Command) (commands : List Command) :
    Alike SameCount shown shown' (session endpoint id setup commands)
      (session endpoint id setup commands) := by
  refine .connect fun answer => ?_
  cases answer with
  | error e => exact .done rfl
  | ok _ =>
    refine .log _ _ ((conversation_alike id setup commands).bind ?_)
    -- how the conversation ended decides what comes next, and both ended alike
    intro later later' result result' _ _ hresult
    rcases hresult.cases with ⟨e, rfl, rfl⟩ | ⟨latency, latency', rfl, rfl, hcount⟩
    · exact breakOff_alike id e
    · exact takeLeave_alike hcount

/-- What a worker does, and what it reports besides durations, is no matter of time. -/
theorem worker_alike (endpoint : String) (id : Nat) (setup : Option Command)
    (commands : List Command) :
    Alike SameReport shown shown' (worker endpoint id setup commands)
      (worker endpoint id setup commands) := by
  refine (session_alike endpoint (toString id) setup commands).bind ?_
  intro later later' result result' _ _ hresult
  -- an error is counted as a failure, whenever it came
  rcases hresult.cases with ⟨e, rfl, rfl⟩ | ⟨latency, latency', rfl, rfl, hcount⟩
  · exact .count _ (.log _ _ (.done rfl))
  · -- the number of requests is counted, and it is the same
    show Alike SameReport later later'
      (.count (.requestsCompleted latency.count) (.log _ (.done (.ok ⟨id, latency⟩))))
      (.count (.requestsCompleted latency'.count) (.log _ (.done (.ok ⟨id, latency'⟩))))
    rw [← hcount]
    exact .count _ (.log _ _ (.done (congrArg (fun count => Except.ok (id, count)) hcount)))

end PolicyReplay.Run
