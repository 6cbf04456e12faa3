/-!
# Counters of a run

What a run counts over all of its connections. Counters are 64-bit words and wrap around. Each
observation adds to them, so the order of observations does not matter.
-/

namespace PolicyReplay

/-- What is counted. -/
inductive Tally where
  /-- A frame went out with a payload of so many octets. -/
  | frameSent (size : Nat)
  | frameReceived
  | requestsCompleted (count : Nat)
  | workerFailed
  | handshakeRejected
  deriving DecidableEq, Repr

/-- The counters of a run. -/
structure Counters where
  framesSent : UInt64 := 0
  framesReceived : UInt64 := 0
  bytesSent : UInt64 := 0
  requestsCompleted : UInt64 := 0
  workerFailures : UInt64 := 0
  handshakeRejections : UInt64 := 0
  deriving DecidableEq, Repr

namespace Counters

/-- Take in one observation. -/
def add (c : Counters) : Tally → Counters
  | .frameSent size =>
    { c with framesSent := c.framesSent + 1, bytesSent := c.bytesSent + UInt64.ofNat size }
  | .frameReceived => { c with framesReceived := c.framesReceived + 1 }
  | .requestsCompleted count =>
    { c with requestsCompleted := c.requestsCompleted + UInt64.ofNat count }
  | .workerFailed => { c with workerFailures := c.workerFailures + 1 }
  | .handshakeRejected => { c with handshakeRejections := c.handshakeRejections + 1 }

/-- The counters of observations. -/
def ofTallies (tallies : List Tally) : Counters := tallies.foldl add {}

end Counters
end PolicyReplay
