import PolicyReplay.Text.Utf8
import PolicyReplay.Wire.Error

/-!
# Frames

A frame is a payload with its length in front of it: four octets, the most significant first.
-/

namespace PolicyReplay.Frame

/-- How many octets announce the length. -/
def headerLength : Nat := 4

/-- The lengths that cannot be announced start here. -/
def sizeBound : Nat := 0x100000000

/-- The header that announces a length. -/
def header (size : Nat) : Bytes :=
  [UInt8.ofNat (size / 0x1000000), UInt8.ofNat (size / 0x10000), UInt8.ofNat (size / 0x100),
    UInt8.ofNat size]

/-- The length that a header announces. -/
def announced (header : Bytes) : Nat := header.foldl (fun n b => n * 256 + b.toNat) 0

theorem length_header (size : Nat) : (header size).length = headerLength := rfl

/-- Reading a header gives back the length it was written for. -/
theorem announced_header {size : Nat} (h : size < sizeBound) : announced (header size) = size := by
  simp only [sizeBound] at h
  simp only [announced, header, List.foldl_cons, List.foldl_nil, UInt8.toNat_ofNat']
  omega

/-- The frame of a payload. -/
def encode (payload : Bytes) : Except Wire.Error Bytes :=
  if payload.length < sizeBound then .ok (header payload.length ++ payload)
  else .error (.frameTooLarge payload.length)

/-- The payload with which a controller accepts a setup command. -/
def acknowledgement : Bytes := Text.encode "ACK".toList

/-- The payload with which a client ends its session. -/
def farewell : Bytes := Text.encode "query(exit)\n".toList

end PolicyReplay.Frame
