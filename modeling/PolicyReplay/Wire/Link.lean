import PolicyReplay.Wire.Frame

/-!
# Links

A link is a byte connection as the client sees it: it may take any part of what is written and
give any part of what is asked for. Frames are written and read over a link piece by piece, and a
stream that ends within a frame counts as a stream that ends before it.
-/

namespace PolicyReplay

/-- The answers of a byte connection with states in `σ`. -/
structure Link (σ : Type) where
  /-- How many of the given octets the connection takes. -/
  write : (bytes : Bytes) → σ → Except SystemError { n : Nat // n ≤ bytes.length } × σ
  /-- Whether all that was taken has gone out. -/
  flush : σ → Except SystemError Unit × σ
  /-- The next octets, at most `limit`; none when the stream has ended. -/
  read : (limit : Nat) → σ → Except SystemError { b : Bytes // b.length ≤ limit } × σ
  /-- End the connection. -/
  shutdown : σ → Except SystemError Unit × σ

namespace Link

/-- Write all of the octets, in as many pieces as the link wants. -/
def writeAll (link : Link σ) (bytes : Bytes) (s : σ) : Except SystemError Unit × σ :=
  if _h : bytes = [] then (.ok (), s)
  else
    match link.write bytes s with
    | (.error e, s) => (.error e, s)
    | (.ok ⟨0, _⟩, s) => (.error .writeZero, s)
    | (.ok ⟨n + 1, _⟩, s) => writeAll link (bytes.drop (n + 1)) s
termination_by bytes.length
decreasing_by simp_all only [List.length_drop]; omega

/-- What a read got, and the failure that ended it, if one did. A read that got fewer octets than
asked for without a failure met the end of the stream. -/
structure Reading where
  bytes : Bytes
  failure : Option SystemError
  deriving DecidableEq, Repr

/-- Read so many octets, in as many pieces as the link gives, unless the stream ends or fails. -/
def readUpTo (link : Link σ) (limit : Nat) (s : σ) : Reading × σ :=
  if _h : limit = 0 then (⟨[], none⟩, s)
  else
    match link.read limit s with
    | (.error e, s) => (⟨[], some e⟩, s)
    | (.ok ⟨[], _⟩, s) => (⟨[], none⟩, s)
    | (.ok ⟨b :: bytes, _⟩, s) =>
      let (rest, s) := readUpTo link (limit - (b :: bytes).length) s
      (⟨b :: bytes ++ rest.bytes, rest.failure⟩, s)
termination_by limit
decreasing_by simp_all only [List.length_cons]; omega

/-- Write the frame of a payload. Nothing is written of a payload that is too large. -/
def writeFrame (link : Link σ) (payload : Bytes) (s : σ) : Except Wire.Error Unit × σ :=
  match Frame.encode payload with
  | .error e => (.error e, s)
  | .ok frame =>
    match link.writeAll frame s with
    | (.error e, s) => (.error (.io e), s)
    | (.ok (), s) =>
      match link.flush s with
      | (.error e, s) => (.error (.io e), s)
      | (.ok (), s) => (.ok (), s)

/-- Read the payload of a frame; none is left when the stream ends first. -/
def readFrame (link : Link σ) (s : σ) : Except Wire.Error (Option Bytes) × σ :=
  match link.readUpTo Frame.headerLength s with
  | (⟨_, some e⟩, s) => if e.kind = .unexpectedEof then (.ok none, s) else (.error (.io e), s)
  | (⟨header, none⟩, s) =>
    if header.length < Frame.headerLength then (.ok none, s)
    else
      let size := Frame.announced header
      match link.readUpTo size s with
      | (⟨_, some e⟩, s) => (.error (.io e), s)
      | (⟨payload, none⟩, s) =>
        if payload.length < size then (.ok none, s) else (.ok (some payload), s)

end Link
end PolicyReplay
