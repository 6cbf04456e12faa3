import PolicyReplay.Proofs.Account
import PolicyReplay.Proofs.Transcript
import PolicyReplay.Run.Session

/-!
# The courses of a session

Whatever the peer answers, a session takes one of seven courses. `Course` lists them with all that
was done on the connection and how the session ended, and every statement about sessions is proved
by cases on it.

## Key results

- `roundTrip_account`: a round trip is answered or broken
- `replay_account`, `conversation_account`: what is said before leave is taken
- `session_course`: every session takes a course
-/

namespace PolicyReplay.Run

open Transcript

variable {σ : Type}

/-! ## What a session is to send -/

/-- The payloads to which an answer is awaited: the setup command if there is one, then the
commands. -/
def requests (setup : Option Command) (commands : List Command) : List Bytes :=
  (setup.toList ++ commands).map Command.bytes

/-- All payloads of a session that nothing goes wrong in. -/
def plan (setup : Option Command) (commands : List Command) : List Bytes :=
  requests setup commands ++ [Frame.farewell]

/-! ## Rounds -/

/-- A payload that went out and the frame that answered it. -/
structure Round where
  payload : Bytes
  answer : Bytes

/-- What is done in a round. -/
def Round.steps (round : Round) : List Step :=
  [.sent round.payload (.ok ()), .counted (.frameSent round.payload.length),
    .received (.ok (some round.answer)), .counted .frameReceived]

/-- What is done in rounds, one after the other. -/
def roundSteps (rounds : List Round) : List Step := rounds.flatMap Round.steps

/-- In no rounds nothing is done. -/
@[simp] theorem roundSteps_nil : roundSteps [] = [] := rfl

/-- The first round is done before the others. -/
theorem roundSteps_cons (round : Round) (rounds : List Round) :
    roundSteps (round :: rounds) = round.steps ++ roundSteps rounds := rfl

/-- The payloads that go out in rounds are theirs. -/
@[simp] theorem delivered_rounds (rounds : List Round) :
    delivered (roundSteps rounds) = rounds.map (·.payload) := by
  -- by induction on the rounds, each of which sends one payload
  induction rounds with
  | nil => rfl
  | cons round rounds ih => rw [roundSteps_cons, delivered_append, ih]; rfl

/-- The frames that come in in rounds are their answers. -/
@[simp] theorem frames_rounds (rounds : List Round) :
    frames (roundSteps rounds) = rounds.map (·.answer) := by
  induction rounds with
  | nil => rfl
  | cons round rounds ih => rw [roundSteps_cons, frames_append, ih]; rfl

/-- In rounds the connection is neither opened nor ended. -/
theorem midway_rounds (rounds : List Round) : ∀ step ∈ roundSteps rounds, step.isMidway = true := by
  intro step hstep
  obtain ⟨round, -, hstep⟩ := List.mem_flatMap.1 hstep
  simp only [Round.steps, List.mem_cons, List.not_mem_nil, or_false] at hstep
  rcases hstep with rfl | rfl | rfl | rfl <;> rfl

/-- No connection is opened in rounds. -/
@[simp] theorem connects_rounds (rounds : List Round) : connects (roundSteps rounds) = 0 :=
  connects_eq_zero (midway_rounds rounds)

/-- No connection is ended in rounds. -/
@[simp] theorem closings_rounds (rounds : List Round) : closings (roundSteps rounds) = 0 :=
  closings_eq_zero (midway_rounds rounds)

/-- A temporal property of rounds is one of each round after those before it. -/
theorem throughout_rounds {P : List Step → Step → List Step → Prop} {rounds : List Round}
    (h : ∀ done round rest, rounds = done ++ round :: rest →
      Throughout (fun before step after =>
        P (roundSteps done ++ before) step (after ++ roundSteps rest)) round.steps) :
    Throughout P (roundSteps rounds) := by
  -- the property moves with the rounds that are done, so it is part of the induction
  induction rounds generalizing P with
  | nil => exact throughout_nil
  | cons round rounds ih =>
    rw [roundSteps_cons, throughout_append]
    refine ⟨h [] round rounds rfl, ih fun done next rest hsplit => ?_⟩
    have hnext := h (round :: done) next rest (by rw [hsplit, List.cons_append])
    simpa only [roundSteps_cons, List.append_assoc] using hnext

/-- A round trip that yields no answer: what is done in it, and the error. -/
inductive Broken (payload : Bytes) : List Step → Error → Prop
  | unsent (e : Wire.Error) : Broken payload [.sent payload (.error e)] (.wire e)
  | unanswered (e : Wire.Error) :
    Broken payload [.sent payload (.ok ()), .counted (.frameSent payload.length),
      .received (.error e)] (.wire e)
  | hungUp :
    Broken payload [.sent payload (.ok ()), .counted (.frameSent payload.length),
      .received (.ok none)] (.wire .closed)

/-- A round trip that breaks neither opens nor ends the connection. -/
theorem Broken.midway {payload : Bytes} {last : List Step} {e : Error}
    (h : Broken payload last e) : ∀ step ∈ last, step.isMidway = true := by
  cases h with
  | unsent e => simp
  | unanswered e => simp
  | hungUp => simp

/-- A round trip is a round or breaks. -/
theorem roundTrip_account (peer : Peer σ) (payload : Bytes) (s : σ) :
    ∃ s', (∃ answer, (roundTrip payload).account peer s =
        ⟨Round.steps ⟨payload, answer⟩, s', .returned (.ok answer)⟩) ∨
      ∃ steps e, (roundTrip payload).account peer s = ⟨steps, s', .returned (.error e)⟩ ∧
        Broken payload steps e := by
  -- what is done decides the case: the payload goes out or not, and a frame comes in or not
  simp only [roundTrip, Dialogue.sent, Dialogue.received, Dialogue.counted, Dialogue.account_bind,
    Dialogue.account_send, Dialogue.account_done, Account.after, Account.bind]
  rcases hsend : peer.send payload s with ⟨e | ⟨⟩, s₁⟩
  · exact ⟨s₁, .inr ⟨_, _, rfl, .unsent e⟩⟩
  · simp only [Dialogue.account_bind, Dialogue.account_count, Dialogue.account_receive,
      Dialogue.account_done, Account.after, Account.bind]
    rcases hreceive : peer.receive s₁ with ⟨e | _ | answer, s₂⟩
    · exact ⟨s₂, .inr ⟨_, _, rfl, .unanswered e⟩⟩
    · exact ⟨s₂, .inr ⟨_, _, rfl, .hungUp⟩⟩
    · exact ⟨s₂, .inl ⟨answer, rfl⟩⟩

/-! ## Conversations -/

/-- If there is a setup command, the answer to it is the acknowledgement. -/
def Accepted (setup : Option Command) (rounds : List Round) : Prop :=
  ∀ round ∈ rounds.head?, setup.isSome → round.answer = Frame.acknowledgement

/-- What is done in a conversation in which so many answers have been measured before, and how it
ends. The setup command is not measured. -/
inductive Conversation (setup : Option Command) (commands : List Command) (measured : Nat) :
    List Step → Fate (Except Error Latency) → Prop
  | answered (rounds : List Round) (latency : Latency)
    (haccepted : Accepted setup rounds)
    (hpayloads : rounds.map (·.payload) = requests setup commands)
    (hcount : latency.count = measured + commands.length) :
    Conversation setup commands measured (roundSteps rounds) (.returned (.ok latency))
  | broken (rounds : List Round) (payload : Bytes) (left : List Bytes) (last : List Step)
    (e : Error) (haccepted : Accepted setup rounds)
    (hpayloads : rounds.map (·.payload) ++ payload :: left = requests setup commands)
    (hlast : Broken payload last e) :
    Conversation setup commands measured (roundSteps rounds ++ last) (.returned (.error e))
  | rejected (command : Command) (answer : Bytes) (hsetup : setup = some command)
    (hanswer : answer ≠ Frame.acknowledgement) :
    Conversation setup commands measured
      (Round.steps ⟨command.bytes, answer⟩ ++ [.counted .handshakeRejected])
      (.returned (.error (.handshakeRejected (String.ofList (Text.decodeLossy answer)))))
  | overflowed (rounds : List Round) (left : List Bytes)
    (haccepted : Accepted setup rounds)
    (hpayloads : rounds.map (·.payload) ++ left = requests setup commands) :
    Conversation setup commands measured (roundSteps rounds)
      (.crashed Duration.Overflow.message)

/-- A round in front of a conversation without a setup command. The round is either a command that
is measured or the handshake. -/
theorem Conversation.cons {setup : Option Command} {commands rest : List Command}
    {measured before : Nat} {steps : List Step} {fate : Fate (Except Error Latency)}
    (round : Round) (h : Conversation none rest measured steps fate)
    (hpayloads : round.payload :: requests none rest = requests setup commands)
    (haccepted : setup.isSome → round.answer = Frame.acknowledgement)
    (hcount : measured + rest.length = before + commands.length) :
    Conversation setup commands before (round.steps ++ steps) fate := by
  -- the round in front is the first one, so it is the one whose answer may have to be accepted
  have hhead : ∀ rounds, Accepted setup (round :: rounds) := by
    intro rounds r hr
    obtain rfl : round = r := by simpa using hr
    exact haccepted
  cases h with
  | answered rounds latency _ hrounds hlatency =>
    exact .answered (round :: rounds) latency (hhead rounds)
      (by rw [List.map_cons, hrounds, hpayloads]) (hlatency.trans hcount)
  | broken rounds payload left last e _ hrounds hlast =>
    rw [← List.append_assoc, ← roundSteps_cons]
    exact .broken (round :: rounds) payload left last e (hhead rounds)
      (by rw [List.map_cons, List.cons_append, hrounds, hpayloads]) hlast
  | rejected command answer hsetup _ => exact nomatch hsetup
  | overflowed rounds left _ hrounds =>
    exact .overflowed (round :: rounds) left (hhead rounds)
      (by rw [List.map_cons, List.cons_append, hrounds, hpayloads])

/-- A latency that could be taken in is counted. -/
theorem count_record {latency next : Latency} {time : Duration}
    (h : latency.record time = .ok next) : next.count = latency.count + 1 := by
  simp only [Latency.record, bind, Except.bind] at h
  split at h
  · exact nomatch h
  · split at h
    · cases h; rfl
    · exact nomatch h

/-- Commands are sent one after the other until they are all answered, a round trip breaks, or the
sum of the latencies overflows. -/
theorem replay_account (peer : Peer σ) (latency : Latency) (commands : List Command) (s : σ) :
    Conversation none commands latency.count
      ((replay latency commands).account peer s).steps
      ((replay latency commands).account peer s).fate := by
  -- induction on the commands that are left, for any latency measured so far
  induction commands generalizing latency s with
  | nil => exact .answered [] latency (by simp [Accepted]) rfl rfl
  | cons command rest ih =>
    simp only [replay, Dialogue.now, Dialogue.account_bind, Dialogue.account_clock,
      Dialogue.account_done, Account.bind, List.nil_append]
    obtain ⟨s', ⟨answer, hround⟩ | ⟨steps, e, hround, hbroken⟩⟩ :=
      roundTrip_account peer command.bytes (peer.clock s).2
    · simp only [hround, Dialogue.account_bind, Dialogue.account_clock, Dialogue.account_done,
        Account.bind, List.nil_append]
      cases hrecord : latency.record ((peer.clock s').1.since (peer.clock s).1) with
      | error _ =>
        -- the answer is there, but it cannot be measured
        refine .overflowed [⟨command.bytes, answer⟩] (requests none rest) ?_ rfl
        simp [Accepted]
      | ok next =>
        -- one command fewer is left, and one answer more is measured
        have hcount := count_record hrecord
        refine (ih next _).cons ⟨command.bytes, answer⟩ rfl (by simp) ?_
        simp only [hcount, List.length_cons]
        omega
    · simp only [hround, Dialogue.account_pure, List.append_nil]
      exact .broken [] command.bytes (requests none rest) steps e (by simp [Accepted]) rfl hbroken

/-- A conversation is the handshake, if there is a setup command, and then the commands. -/
theorem conversation_account (peer : Peer σ) (id : String) (setup : Option Command)
    (commands : List Command) (s : σ) :
    Conversation setup commands 0 ((conversation id setup commands).account peer s).steps
      ((conversation id setup commands).account peer s).fate := by
  -- without a setup command there is no handshake
  cases setup with
  | none => exact replay_account peer {} commands s
  | some command =>
    simp only [conversation, handshake, Dialogue.account_bind]
    obtain ⟨s', ⟨answer, hround⟩ | ⟨steps, e, hround, hbroken⟩⟩ :=
      roundTrip_account peer command.bytes s
    · by_cases hanswer : answer = Frame.acknowledgement
      · simp only [hround, Account.bind, hanswer, ↓reduceIte, Dialogue.logged,
          Dialogue.account_bind, Dialogue.account_log, Dialogue.account_done,
          Dialogue.account_pure, List.append_nil]
        -- the round of the handshake is not measured
        exact (replay_account peer {} commands s').cons ⟨command.bytes, Frame.acknowledgement⟩ rfl
          (fun _ => rfl) rfl
      · simp only [hround, Account.bind, hanswer, ↓reduceIte, Dialogue.logged, Dialogue.counted,
          Dialogue.account_bind, Dialogue.account_log, Dialogue.account_count,
          Dialogue.account_done, Dialogue.account_pure, Account.after, List.append_nil]
        exact .rejected command answer rfl hanswer
    · simp only [hround, Account.bind, Dialogue.account_pure, List.append_nil]
      exact .broken [] command.bytes (requests none commands) steps e (by simp [Accepted]) rfl
        hbroken

/-! ## Whole sessions -/

/-- What is done on the connection of a session, and how the session ends. -/
inductive Course (setup : Option Command) (commands : List Command) :
    List Step → Fate (Except Error Latency) → Prop
  /-- The connection cannot be opened. -/
  | refused (e : Wire.Error) :
    Course setup commands [.connected (.refused e)] (.returned (.error (.wire e)))
  /-- Opening the connection ends the client. -/
  | aborted (message : String) :
    Course setup commands [.connected (.crashed message)] (.crashed message)
  /-- A round trip breaks, and the connection is ended. -/
  | broken (rounds : List Round) (payload : Bytes) (left : List Bytes) (last : List Step)
    (e : Error) (closing : Except Wire.Error Unit) (haccepted : Accepted setup rounds)
    (hpayloads : rounds.map (·.payload) ++ payload :: left = requests setup commands)
    (hlast : Broken payload last e) :
    Course setup commands
      (.connected .opened :: (roundSteps rounds ++ last) ++ [.closed closing])
      (.returned (.error e))
  /-- The setup command is not acknowledged, and the connection is ended. -/
  | rejected (command : Command) (answer : Bytes) (closing : Except Wire.Error Unit)
    (hsetup : setup = some command) (hanswer : answer ≠ Frame.acknowledgement) :
    Course setup commands
      (.connected .opened :: (Round.steps ⟨command.bytes, answer⟩ ++ [.counted .handshakeRejected]) ++
        [.closed closing])
      (.returned (.error (.handshakeRejected (String.ofList (Text.decodeLossy answer)))))
  /-- An answer is too late to be measured, which ends the client. -/
  | overflowed (rounds : List Round) (left : List Bytes)
    (haccepted : Accepted setup rounds)
    (hpayloads : rounds.map (·.payload) ++ left = requests setup commands) :
    Course setup commands (.connected .opened :: roundSteps rounds)
      (.crashed Duration.Overflow.message)
  /-- Everything is answered, but the client cannot take its leave. -/
  | stranded (rounds : List Round) (e : Wire.Error) (haccepted : Accepted setup rounds)
    (hpayloads : rounds.map (·.payload) = requests setup commands) :
    Course setup commands
      (.connected .opened :: roundSteps rounds ++ [.sent Frame.farewell (.error e)])
      (.returned (.error (.wire e)))
  /-- Everything is answered, and the client takes its leave and ends the connection. -/
  | parted (rounds : List Round) (latency : Latency) (closing : Except Wire.Error Unit)
    (haccepted : Accepted setup rounds)
    (hpayloads : rounds.map (·.payload) = requests setup commands)
    (hcount : latency.count = commands.length) :
    Course setup commands
      (.connected .opened :: roundSteps rounds ++
        [.sent Frame.farewell (.ok ()), .counted (.frameSent Frame.farewell.length),
          .closed closing])
      (.returned ((closing.map fun _ => latency).mapError .wire))

/-- A course with a result has an answer to each command. -/
theorem Course.count_eq {setup : Option Command} {commands : List Command} {steps : List Step}
    {latency : Latency} (h : Course setup commands steps (.returned (.ok latency))) :
    latency.count = commands.length := by
  -- of all courses only the one that took its leave can have a result
  generalize hfate : Fate.returned (Except.ok latency) = fate at h
  cases h with
  | parted rounds measured closing haccepted hpayloads hcount =>
    cases closing with
    | error e => cases hfate
    | ok _ =>
      obtain rfl := Except.ok.inj (Fate.returned.inj hfate)
      exact hcount
  | _ => cases hfate

/-- Whatever comes of ending the connection, the error stays the one that went before. -/
theorem breakOff_account (peer : Peer σ) (id : String) (e : Error) (s : σ) :
    (breakOff id e).account peer s =
      ⟨[.closed (peer.close s).1], (peer.close s).2, .returned (.error e)⟩ := by
  simp only [breakOff, Dialogue.closed, Dialogue.account_bind, Dialogue.account_close,
    Dialogue.account_done, Account.after, Account.bind]
  rcases peer.close s with ⟨_ | ⟨⟩, s'⟩
  · rfl
  · rfl

/-- Leave is taken by sending the farewell, and the connection is ended only if that went out. -/
theorem takeLeave_account (peer : Peer σ) (latency : Latency) (s : σ) :
    ∃ s', (∃ e, (takeLeave latency).account peer s =
        ⟨[.sent Frame.farewell (.error e)], s', .returned (.error (.wire e))⟩) ∨
      ∃ closing, (takeLeave latency).account peer s =
        ⟨[.sent Frame.farewell (.ok ()), .counted (.frameSent Frame.farewell.length),
          .closed closing], s', .returned ((closing.map fun _ => latency).mapError .wire)⟩ := by
  simp only [takeLeave, Dialogue.sent, Dialogue.counted, Dialogue.closed, Dialogue.account_bind,
    Dialogue.account_send, Dialogue.account_done, Account.after, Account.bind]
  rcases peer.send Frame.farewell s with ⟨e | ⟨⟩, s₁⟩
  · exact ⟨s₁, .inl ⟨e, rfl⟩⟩
  · simp only [Dialogue.account_bind, Dialogue.account_count, Dialogue.account_close,
      Dialogue.account_done, Account.after, Account.bind]
    rcases peer.close s₁ with ⟨e | ⟨⟩, s₂⟩
    · exact ⟨s₂, .inr ⟨.error e, rfl⟩⟩
    · exact ⟨s₂, .inr ⟨.ok (), rfl⟩⟩

/-- Every session takes a course. -/
theorem session_course (peer : Peer σ) (endpoint id : String) (setup : Option Command)
    (commands : List Command) (s : σ) :
    Course setup commands ((session endpoint id setup commands).account peer s).steps
      ((session endpoint id setup commands).account peer s).fate := by
  simp only [session, Dialogue.opened, Dialogue.account_bind, Dialogue.account_connect]
  rcases peer.connect s with ⟨_ | e | message, s₁⟩
  · simp only [Dialogue.account_done, Account.after, Account.bind, Dialogue.logged,
      Dialogue.account_bind, Dialogue.account_log, List.nil_append, List.cons_append]
    have htalk := conversation_account peer id setup commands s₁
    generalize (conversation id setup commands).account peer s₁ = talk at htalk
    obtain ⟨steps, s₂, fate⟩ := talk
    -- a session takes leave if all is answered, and else breaks off unless it has crashed
    cases htalk with
    -- all was answered, so what is left is to take leave
    | answered rounds latency haccepted hpayloads hcount =>
      rw [Nat.zero_add] at hcount
      obtain ⟨s₃, ⟨e, hleave⟩ | ⟨closing, hleave⟩⟩ := takeLeave_account peer latency s₂
      · simp only [hleave]
        exact .stranded rounds e haccepted hpayloads
      · simp only [hleave]
        exact .parted rounds latency closing haccepted hpayloads hcount
    | broken rounds payload left last e haccepted hpayloads hlast =>
      simp only [breakOff_account]
      exact .broken rounds payload left last e _ haccepted hpayloads hlast
    | rejected command answer hsetup hanswer =>
      simp only [breakOff_account]
      exact .rejected command answer _ hsetup hanswer
    | overflowed rounds left haccepted hpayloads =>
      exact .overflowed rounds left haccepted hpayloads
  -- the connection was not opened, and nothing else is done
  · exact .refused e
  · exact .aborted message

end PolicyReplay.Run
