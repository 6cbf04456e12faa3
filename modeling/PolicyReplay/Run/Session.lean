import PolicyReplay.Dialogue
import PolicyReplay.Latency
import PolicyReplay.Run.Config

/-!
# Sessions

A session is what a client does on one connection: it opens the connection, has the setup command
acknowledged if there is one, sends its commands one at a time, each after the answer to the one
before, and takes its leave. The latency of a command is the time from sending it to its answer.
-/

namespace PolicyReplay.Run

/-- Send a payload and receive the answer to it. -/
def roundTrip (payload : Bytes) : Dialogue (Except Error Bytes) := do
  match ← .sent payload with
  | .error e => return .error (.wire e)
  | .ok () =>
    .counted (.frameSent payload.length)
    match ← .received with
    | .error e => return .error (.wire e)
    | .ok none => return .error (.wire .closed)
    | .ok (some answer) =>
      .counted .frameReceived
      return .ok answer

/-- Have the setup command acknowledged. -/
def handshake (id : String) (setup : Command) : Dialogue (Except Error Unit) := do
  match ← roundTrip setup.bytes with
  | .error e => return .error e
  | .ok answer =>
    if answer = Frame.acknowledgement then
      .logged (Log.Event.handshakeAccepted.entry [("worker", id)])
      return .ok ()
    else
      let response := String.ofList (Text.decodeLossy answer)
      .counted .handshakeRejected
      .logged (Log.Event.handshakeRejected.entry [("worker", id), ("response", response)])
      return .error (.handshakeRejected response)

/-- Send commands one after the other and measure them. -/
def replay (latency : Latency) : List Command → Dialogue (Except Error Latency)
  | [] => return .ok latency
  | command :: rest => do
    let before ← .now
    match ← roundTrip command.bytes with
    | .error e => return .error e
    | .ok _ =>
      let after ← .now
      match latency.record (after.since before) with
      | .error _ => .crash Duration.Overflow.message
      | .ok latency => replay latency rest

/-- What is said on an open connection before leave is taken. -/
def conversation (id : String) (setup : Option Command) (commands : List Command) :
    Dialogue (Except Error Latency) := do
  match setup with
  | none => replay {} commands
  | some setup =>
    match ← handshake id setup with
    | .error e => return .error e
    | .ok () => replay {} commands

/-- Take leave after a conversation in which every command was answered. -/
def takeLeave (latency : Latency) : Dialogue (Except Error Latency) := do
  match ← .sent Frame.farewell with
  | .error e => return .error (.wire e)
  | .ok () =>
    .counted (.frameSent Frame.farewell.length)
    match ← .closed with
    | .error e => return .error (.wire e)
    | .ok () => return .ok latency

/-- End a connection on which something went wrong. The error stays the one that went before. -/
def breakOff (id : String) (error : Error) : Dialogue (Except Error Latency) := do
  match ← .closed with
  | .error e =>
    .logged ⟨.trace, "SESSION_CLOSE_FAILED", [("worker", id), ("reason", e.message)]⟩
    return .error error
  | .ok () => return .error error

/-- A whole session. -/
def session (endpoint id : String) (setup : Option Command) (commands : List Command) :
    Dialogue (Except Error Latency) := do
  match ← .opened with
  | .error e => return .error (.wire e)
  | .ok () =>
    .logged (Log.Event.workerConnected.entry [("worker", id), ("endpoint", endpoint)])
    match ← conversation id setup commands with
    | .ok latency => takeLeave latency
    | .error e => breakOff id e

end PolicyReplay.Run
