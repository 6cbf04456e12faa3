import PolicyReplay.Proofs.Counters
import PolicyReplay.Proofs.Session.Course

/-!
# What a session counts

A session counts each payload that went out, with its length, and each frame that came in, right
after it did or came. So what it counted can be read off its transcript, and since a session sends
nothing before the last answer is there, it has sent as many payloads as it got frames, or one more.

## Key results

- `Course.countsTransfers`: what a session counts are its transfers
- `Course.delivered_length_le`: how many payloads go out for the frames that come in
- `Course.total_handshakeRejections`: when a session counts a rejection
-/

namespace PolicyReplay.Run

open Transcript

variable {setup : Option Command} {commands : List Command} {steps : List Step}
  {fate : Fate (Except Error Latency)}

/-! ## Transfers are counted -/

/-- What was counted of transfers is what was transferred, and no outcome was counted. -/
structure CountsTransfers (steps : List Step) : Prop where
  framesSent : Tally.total (tallies steps) .framesSent = (delivered steps).length
  bytesSent : Tally.total (tallies steps) .bytesSent = ((delivered steps).map List.length).sum
  framesReceived : Tally.total (tallies steps) .framesReceived = (frames steps).length
  requestsCompleted : Tally.total (tallies steps) .requestsCompleted = 0
  workerFailures : Tally.total (tallies steps) .workerFailures = 0

/-- What is counted of transfers is counted of one transcript behind the other. -/
theorem CountsTransfers.append {first rest : List Step} (hfirst : CountsTransfers first)
    (hrest : CountsTransfers rest) : CountsTransfers (first ++ rest) where
  framesSent := by simp [hfirst.framesSent, hrest.framesSent]
  bytesSent := by simp [hfirst.bytesSent, hrest.bytesSent]
  framesReceived := by simp [hfirst.framesReceived, hrest.framesReceived]
  requestsCompleted := by simp [hfirst.requestsCompleted, hrest.requestsCompleted]
  workerFailures := by simp [hfirst.workerFailures, hrest.workerFailures]

/-- Where nothing is transferred and nothing is counted, the count is right. -/
theorem CountsTransfers.of_idle (hdelivered : delivered steps = []) (hframes : frames steps = [])
    (htallies : tallies steps = []) : CountsTransfers steps := by
  constructor <;> simp [hdelivered, hframes, htallies]

/-- Opening a connection transfers nothing. -/
theorem countsTransfers_opened : CountsTransfers [.connected .opened] := .of_idle rfl rfl rfl

/-- Ending a connection transfers nothing. -/
theorem countsTransfers_closed (closing : Except Wire.Error Unit) :
    CountsTransfers [.closed closing] := .of_idle rfl rfl rfl

/-- A payload that went out is counted once, with its length. -/
theorem countsTransfers_sent (payload : Bytes) :
    CountsTransfers [.sent payload (.ok ()), .counted (.frameSent payload.length)] := by
  -- of the counters two are added to, and the others stay
  constructor <;> simp [Tally.amount, Tally.increments, Increment.into]

/-- A frame that came in is counted once. -/
theorem countsTransfers_received (frame : Bytes) :
    CountsTransfers [.received (.ok (some frame)), .counted .frameReceived] := by
  constructor <;> simp [Tally.amount, Tally.increments, Increment.into]

/-- A rejection is counted apart from the transfers. -/
theorem countsTransfers_rejected : CountsTransfers [.counted .handshakeRejected] := by
  constructor <;> simp [Tally.amount, Tally.increments, Increment.into]

/-- In a round one payload is counted and one frame. -/
theorem Round.countsTransfers (round : Round) : CountsTransfers round.steps :=
  (countsTransfers_sent round.payload).append (countsTransfers_received round.answer)

/-- In rounds the payloads and the frames are counted. -/
theorem countsTransfers_rounds (rounds : List Round) : CountsTransfers (roundSteps rounds) := by
  -- by induction on the rounds, which count apart from each other
  induction rounds with
  | nil => exact .of_idle rfl rfl rfl
  | cons round rounds ih => exact round.countsTransfers.append ih

/-- A round trip that breaks counts its payload if that went out, and no frame. -/
theorem Broken.countsTransfers {payload : Bytes} {last : List Step} {e : Error}
    (h : Broken payload last e) : CountsTransfers last := by
  cases h with
  | unsent e => exact .of_idle rfl rfl rfl
  | unanswered e => exact (countsTransfers_sent payload).append (.of_idle rfl rfl rfl)
  | hungUp => exact (countsTransfers_sent payload).append (.of_idle rfl rfl rfl)

/-- What a session counts are its transfers. -/
theorem Course.countsTransfers (h : Course setup commands steps fate) :
    CountsTransfers steps := by
  -- the courses are made of openings, rounds, broken round trips and endings
  cases h with
  | refused e => exact .of_idle rfl rfl rfl
  | aborted message => exact .of_idle rfl rfl rfl
  | broken rounds payload left last e closing haccepted hpayloads hlast =>
    exact (countsTransfers_opened.append
      ((countsTransfers_rounds rounds).append hlast.countsTransfers)).append
      (countsTransfers_closed closing)
  | rejected command answer closing hsetup hanswer =>
    -- the round of the handshake is a transfer, and the rejection is counted behind it
    exact (countsTransfers_opened.append
      ((Round.countsTransfers ⟨command.bytes, answer⟩).append countsTransfers_rejected)).append
      (countsTransfers_closed closing)
  | overflowed rounds left haccepted hpayloads =>
    exact countsTransfers_opened.append (countsTransfers_rounds rounds)
  | stranded rounds e haccepted hpayloads =>
    exact (countsTransfers_opened.append (countsTransfers_rounds rounds)).append
      (.of_idle rfl rfl rfl)
  | parted rounds latency closing haccepted hpayloads hcount =>
    exact (countsTransfers_opened.append (countsTransfers_rounds rounds)).append
      ((countsTransfers_sent Frame.farewell).append (countsTransfers_closed closing))

/-! ## Payloads and frames -/

/-- A session has sent as many payloads as it got frames, or one more. -/
theorem Course.delivered_length_le (h : Course setup commands steps fate) :
    (frames steps).length ≤ (delivered steps).length ∧
      (delivered steps).length ≤ (frames steps).length + 1 := by
  cases h with
  | broken rounds payload left last e closing haccepted hpayloads hlast =>
    -- the round trip that breaks may have got its payload out, but it got no frame
    cases hlast <;> simp
  | refused e => simp
  | aborted message => simp
  | rejected command answer closing hsetup hanswer => simp [Round.steps]
  | overflowed rounds left haccepted hpayloads => simp
  | stranded rounds e haccepted hpayloads => simp
  | parted rounds latency closing haccepted hpayloads hcount => simp

/-! ## Rejections -/

/-- Whether a session ended in the rejection of its setup command. -/
def isRejection : Fate (Except Error Latency) → Bool
  | .returned (.error (.handshakeRejected _)) => true
  | _ => false

/-- Rounds count no rejections. -/
@[simp] theorem total_handshakeRejections_rounds (rounds : List Round) :
    Tally.total (tallies (roundSteps rounds)) .handshakeRejections = 0 := by
  induction rounds with
  | nil => rfl
  | cons round rounds ih =>
    rw [roundSteps_cons, tallies_append, Tally.total_append, ih]
    rfl

/-- A round trip that breaks counts no rejections. -/
theorem Broken.total_handshakeRejections {payload : Bytes} {last : List Step} {e : Error}
    (h : Broken payload last e) : Tally.total (tallies last) .handshakeRejections = 0 := by
  cases h <;> rfl

/-- A session counts a rejection exactly if it ends in one. -/
theorem Course.total_handshakeRejections (h : Course setup commands steps fate) :
    Tally.total (tallies steps) .handshakeRejections = if isRejection fate then 1 else 0 := by
  cases h with
  | refused e => rfl
  | aborted message => rfl
  | broken rounds payload left last e closing haccepted hpayloads hlast =>
    -- what breaks a round trip is an error of the wire, and not a rejection
    have hnot : isRejection (.returned (.error e)) = false := by cases hlast <;> rfl
    simp [hlast.total_handshakeRejections, hnot]
  | rejected command answer closing hsetup hanswer => rfl
  | overflowed rounds left haccepted hpayloads => simp [isRejection]
  | stranded rounds e haccepted hpayloads => simp [isRejection]
  | parted rounds latency closing haccepted hpayloads hcount =>
    -- a session that took its leave ends as its connection does
    have hnot :
        isRejection (.returned ((closing.map fun _ => latency).mapError .wire)) = false := by
      cases closing <;> rfl
    simp [hnot, Tally.amount, Tally.increments, Increment.into]

end PolicyReplay.Run
