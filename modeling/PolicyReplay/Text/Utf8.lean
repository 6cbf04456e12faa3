/-!
# UTF-8

Text goes out as UTF-8 octets and comes in as octets that may be anything. `scan` reads octets one
at a time and yields a character for each well-formed sequence and `none` for each piece that is
not one: an octet that cannot start a character, or a started character up to the octet that cannot
continue it. Strict and lossy reading are read off the same scan.
-/

namespace PolicyReplay

/-- Octets in the order in which they are sent, stored or received. -/
abbrev Bytes := List UInt8

namespace Text

/-- The octets of a text. -/
def encode (s : List Char) : Bytes := s.flatMap String.utf8EncodeChar

/-- A character whose first octets have been read. -/
structure Pending where
  /-- The bits read so far. -/
  bits : Nat
  /-- How many octets follow the next one. -/
  owed : Nat
  /-- The bounds of the next octet, which shut out overlong forms, surrogates and all beyond
  U+10FFFF. -/
  low : UInt8 := 0x80
  high : UInt8 := 0xBF

/-- What an octet leads to. -/
inductive Progress where
  | complete (c : Char)
  | pending (p : Pending)
  | broken

/-- What an octet at the start of a character leads to. -/
def start (b : UInt8) : Progress :=
  let n := b.toNat
  if n < 0x80 then .complete (Char.ofNat n)
  else if n < 0xC2 then .broken
  else if n < 0xE0 then .pending { bits := n - 0xC0, owed := 0 }
  else if n = 0xE0 then .pending { bits := 0, owed := 1, low := 0xA0 }
  else if n = 0xED then .pending { bits := n - 0xE0, owed := 1, high := 0x9F }
  else if n < 0xF0 then .pending { bits := n - 0xE0, owed := 1 }
  else if n = 0xF0 then .pending { bits := 0, owed := 2, low := 0x90 }
  else if n < 0xF4 then .pending { bits := n - 0xF0, owed := 2 }
  else if n = 0xF4 then .pending { bits := n - 0xF0, owed := 2, high := 0x8F }
  else .broken

/-- What the next octet of a started character leads to. -/
def Pending.next (p : Pending) (b : UInt8) : Progress :=
  if p.low ≤ b && b ≤ p.high then
    let bits := p.bits * 64 + (b.toNat - 0x80)
    match p.owed with
    | 0 => .complete (Char.ofNat bits)
    | owed + 1 => .pending { bits, owed }
  else .broken

/-- The characters of the octets, and `none` for each piece that is none. -/
def scan : Option Pending → Bytes → List (Option Char)
  | none, [] => []
  | some _, [] => [none]
  | none, b :: rest =>
    match start b with
    | .complete c => some c :: scan none rest
    | .pending p => scan (some p) rest
    | .broken => none :: scan none rest
  | some p, b :: rest =>
    match p.next b with
    | .complete c => some c :: scan none rest
    | .pending p => scan (some p) rest
    | .broken =>
      none :: match start b with
        | .complete c => some c :: scan none rest
        | .pending p => scan (some p) rest
        | .broken => none :: scan none rest

/-- The text of octets that are UTF-8 throughout. -/
def decode? (bytes : Bytes) : Option (List Char) := (scan none bytes).mapM id

/-- The text of any octets, with U+FFFD for each piece that is no character. -/
def decodeLossy (bytes : Bytes) : List Char := (scan none bytes).map (·.getD '\uFFFD')

end Text
end PolicyReplay
