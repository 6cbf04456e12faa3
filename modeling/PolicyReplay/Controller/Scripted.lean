import PolicyReplay.Wire.Peer

/-!
# Scripted controllers

A controller that answers by a script, for rehearsing a run. What the client writes is cut into
frames, and each complete frame draws the next reply; the octets of the replies queue up for the
client. The script also says how the connection misbehaves: how few octets it takes or gives at a
time, when writing fails, and how it ends.
-/

namespace PolicyReplay.Scripted

/-- What a frame draws. -/
inductive Reply where
  | frame (payload : Bytes)
  /-- The payload of the frame itself. -/
  | echo
  /-- Octets outside of any frame. -/
  | raw (bytes : Bytes)
  /-- The stream ends. -/
  | finish
  /-- The stream fails. -/
  | fail (cause : SystemError)
  deriving DecidableEq, Repr

/-- How a controller behaves on one connection. -/
structure Script where
  /-- What opening the connection comes to. -/
  opening : Opening := .opened
  /-- What the client can read before it has written anything. -/
  inbound : Bytes := []
  /-- The replies to the first frames. -/
  replies : List Reply := []
  /-- The reply to every further frame. -/
  fallback : Reply := .frame (Text.encode "OK".toList)
  /-- The most octets that are taken or given at a time, if there is such a limit. -/
  chunk : Option Nat := none
  /-- After how many frames writing fails, and how. -/
  writeFailure : Option (Nat × SystemError) := none
  /-- How ending the connection fails. -/
  shutdownFailure : Option SystemError := none
  deriving DecidableEq, Repr

/-- A connection to a scripted controller. -/
structure State where
  script : Script
  /-- The replies that are left. -/
  replies : List Reply
  /-- What the client can read. -/
  queue : Bytes
  /-- The failure that the client meets when it has read the queue. -/
  failure : Option SystemError := none
  /-- What the client has written of a frame that is not complete. -/
  partialFrame : Bytes := []
  /-- The payloads of the complete frames, in order. -/
  received : List Bytes := []
  /-- Nothing more is answered. -/
  finished : Bool := false
  /-- The client has ended the connection. -/
  closed : Bool := false
  deriving DecidableEq, Repr

namespace State

/-- A connection before anything has happened on it. -/
def ofScript (script : Script) : State :=
  { script, replies := script.replies, queue := script.inbound }

/-- The frame of a reply, or nothing if the payload is too large for one. -/
def framed (payload : Bytes) : Bytes := (Frame.encode payload).toOption.getD []

/-- Answer a payload as a reply says. -/
def reply (s : State) (payload : Bytes) : Reply → State
  | .frame answer => { s with queue := s.queue ++ framed answer }
  | .echo => { s with queue := s.queue ++ framed payload }
  | .raw bytes => { s with queue := s.queue ++ bytes }
  | .finish => { s with finished := true }
  | .fail cause => { s with finished := true, failure := some cause }

/-- Take in a payload. The farewell of a client draws no reply. -/
def take (s : State) (payload : Bytes) : State :=
  let s := { s with received := s.received ++ [payload] }
  if payload = Frame.farewell || s.finished then s
  else
    match s.replies with
    | [] => s.reply payload s.script.fallback
    | next :: rest => { s with replies := rest }.reply payload next

/-- Take in the complete frames among the octets that the client has written. -/
def takeFrames (s : State) (bytes : Bytes) : State :=
  let size := Frame.announced (bytes.take Frame.headerLength)
  if _h : bytes.length < Frame.headerLength then { s with partialFrame := bytes }
  else if bytes.length < Frame.headerLength + size then { s with partialFrame := bytes }
  else
    let body := bytes.drop Frame.headerLength
    takeFrames (s.take (body.take size)) (body.drop size)
termination_by bytes.length
decreasing_by
  simp only [List.length_drop, Frame.headerLength] at *
  omega

/-- The most octets of `size` that are taken or given at a time. -/
def portion (s : State) (size : Nat) : Nat :=
  match s.script.chunk with
  | none => size
  | some chunk => min chunk size

theorem portion_le (s : State) (size : Nat) : s.portion size ≤ size := by
  unfold portion
  split <;> omega

/-- Write to the controller. -/
def write (bytes : Bytes) (s : State) :
    Except SystemError { n : Nat // n ≤ bytes.length } × State :=
  let failure := s.script.writeFailure.filter fun (count, _) => count ≤ s.received.length
  match failure with
  | some (_, cause) => (.error cause, s)
  | none =>
    let n := s.portion bytes.length
    (.ok ⟨n, s.portion_le bytes.length⟩, s.takeFrames (s.partialFrame ++ bytes.take n))

/-- Read what the controller has answered. -/
def read (limit : Nat) (s : State) : Except SystemError { b : Bytes // b.length ≤ limit } × State :=
  match s.queue, s.failure with
  | [], some cause => (.error cause, { s with failure := none })
  | queue, _ =>
    let n := s.portion limit
    (.ok ⟨queue.take n, by
        have := s.portion_le limit
        simp only [List.length_take]
        omega⟩,
      { s with queue := queue.drop n })

/-- End the connection. -/
def shutdown (s : State) : Except SystemError Unit × State :=
  match s.script.shutdownFailure with
  | some cause => (.error cause, s)
  | none => (.ok (), { s with closed := true })

end State

/-- The byte connection to a scripted controller. -/
def link : Link State where
  write := State.write
  flush := fun s => (.ok (), s)
  read := State.read
  shutdown := State.shutdown

/-- The frame connection to a scripted controller, on which no time passes. -/
def peer : Peer State :=
  link.peer (fun s => (s.script.opening, s)) (fun s => (.zero, s))

end PolicyReplay.Scripted
