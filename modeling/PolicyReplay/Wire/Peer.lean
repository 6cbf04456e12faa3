import PolicyReplay.Duration
import PolicyReplay.Wire.Link

/-!
# Peers

A peer is a frame connection as the client sees it: whatever answers it gives to each thing that
the client does, with states in some type. A link with a way to open it and a clock is a peer.
-/

namespace PolicyReplay

/-- What comes of opening a connection. -/
inductive Opening where
  | opened
  | refused (cause : Wire.Error)
  /-- The attempt ends the client that makes it. -/
  | crashed (message : String)
  deriving DecidableEq, Repr

/-- The answers of a frame connection with states in `σ`. -/
structure Peer (σ : Type) where
  connect : σ → Opening × σ
  send : Bytes → σ → Except Wire.Error Unit × σ
  receive : σ → Except Wire.Error (Option Bytes) × σ
  close : σ → Except Wire.Error Unit × σ
  clock : σ → Duration × σ

/-- A byte connection as a frame connection. -/
def Link.peer (link : Link σ) (connect : σ → Opening × σ) (clock : σ → Duration × σ) : Peer σ where
  connect := connect
  send := link.writeFrame
  receive := link.readFrame
  close := fun s =>
    let (answer, s) := link.shutdown s
    (answer.mapError .io, s)
  clock := clock

end PolicyReplay
