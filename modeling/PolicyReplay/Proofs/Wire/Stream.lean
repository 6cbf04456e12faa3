import PolicyReplay.Wire.Link

/-!
# Frames over a link

Payloads that are written as frames are read back as they were, in whatever pieces the two links
move the octets, and nothing behind the frames that are read is touched.

A link is described by what has gone through it: `Absorbs` for the side that is written to, with
what it has taken so far, and `Supplies` for the side that is read from, with what is left to read.
Neither says how many octets an operation moves, only that it is at least one.

## Key results

- `Absorbs.writeAll`, `Supplies.readUpTo`: the loops over the pieces come to the end
- `Absorbs.writeFrame`, `Supplies.readFrame`: one frame
- `frames_cross`: any number of frames, and what follows them
- `Pipe.absorbs`, `Pipe.supplies`: a pipe does both, for every schedule of its pieces
-/

namespace PolicyReplay

variable {σ τ : Type}

namespace Frame

/-- The octets of the frame of a payload. -/
def octets (payload : Bytes) : Bytes := header payload.length ++ payload

/-- The octets of the frames of payloads, one behind the other. -/
def stream (payloads : List Bytes) : Bytes := payloads.flatMap octets

@[simp] theorem stream_nil : stream [] = [] := rfl

/-- The first frame stands in front of the others. -/
@[simp] theorem stream_cons (payload : Bytes) (payloads : List Bytes) :
    stream (payload :: payloads) = octets payload ++ stream payloads := rfl

/-- Frames one behind the other are two streams one behind the other. -/
@[simp] theorem stream_append (before after : List Bytes) :
    stream (before ++ after) = stream before ++ stream after := List.flatMap_append

/-- A payload whose size fits into the header is framed. -/
theorem encode_eq_ok {payload : Bytes} (h : payload.length < sizeBound) :
    encode payload = .ok (octets payload) := if_pos h

/-- A payload whose size does not fit into the header is refused, with its size. -/
theorem encode_eq_error {payload : Bytes} (h : sizeBound ≤ payload.length) :
    encode payload = .error (.frameTooLarge payload.length) := if_neg (Nat.not_lt.mpr h)

end Frame

namespace Link

variable {link : Link σ} {Taken Unread : σ → Bytes → Prop}

/-- A link that takes something of whatever is written and never fails, where `Taken s bytes` says
that by state `s` it has taken `bytes`. -/
structure Absorbs (link : Link σ) (Taken : σ → Bytes → Prop) : Prop where
  write : ∀ {s taken bytes}, Taken s taken → bytes ≠ [] →
    ∃ n s', link.write bytes s = (.ok n, s') ∧ 0 < n.val ∧ Taken s' (taken ++ bytes.take n.val)
  flush : ∀ {s taken}, Taken s taken → ∃ s', link.flush s = (.ok (), s') ∧ Taken s' taken

/-- A link that gives something of whatever is left, where `Unread s bytes` says that in state `s`
`bytes` is left. What it answers when nothing is left is open. -/
structure Supplies (link : Link σ) (Unread : σ → Bytes → Prop) : Prop where
  read : ∀ {s bytes limit}, Unread s bytes → bytes ≠ [] → 0 < limit →
    ∃ given s', link.read limit s = (.ok given, s') ∧ given.val ≠ [] ∧
      ∃ rest, bytes = given.val ++ rest ∧ Unread s' rest

/-! ## Pieces -/

/-- However few octets are taken at a time, all are taken in the end, in order. -/
theorem Absorbs.writeAll (h : link.Absorbs Taken) (bytes : Bytes) {taken : Bytes} {s : σ}
    (hs : Taken s taken) :
    ∃ s', link.writeAll bytes s = (.ok (), s') ∧ Taken s' (taken ++ bytes) := by
  fun_induction link.writeAll bytes s generalizing taken with
  | case1 s => exact ⟨s, rfl, by rwa [List.append_nil]⟩
  -- the link neither fails nor takes nothing
  | case2 bytes s hne e s' hwrite =>
    obtain ⟨n, s'', hok, -⟩ := h.write hs hne
    rw [hwrite] at hok
    exact nomatch hok
  | case3 bytes s hne hle s' hwrite =>
    obtain ⟨n, s'', hok, hpos, -⟩ := h.write hs hne
    rw [hwrite] at hok
    obtain ⟨rfl, rfl⟩ := by simpa using hok
    exact absurd hpos (Nat.lt_irrefl 0)
  -- what the loop has taken so far grows with every round, so `taken` is left open in the induction
  | case4 bytes s hne n hle s' hwrite ih =>
    obtain ⟨m, s'', hok, -, htaken⟩ := h.write hs hne
    rw [hwrite] at hok
    obtain ⟨rfl, rfl⟩ := by simpa using hok
    -- the piece that was taken and what the loop goes on with are the octets to write
    obtain ⟨s'', hrest, hall⟩ := ih htaken
    rw [List.append_assoc, List.take_append_drop] at hall
    exact ⟨s'', hrest, hall⟩

/-- What one reading gives lies within what was asked for, and the others are left. -/
theorem Supplies.read_within (h : link.Supplies Unread) {bytes rest : Bytes} {s : σ}
    (hs : Unread s (bytes ++ rest)) (hne : bytes ≠ []) :
    ∃ given s' more, link.read bytes.length s = (.ok given, s') ∧ given.val ≠ [] ∧
      bytes = given.val ++ more ∧ Unread s' (more ++ rest) := by
  obtain ⟨given, s', hread, hgiven, left, hleft, hs'⟩ :=
    h.read hs (List.append_ne_nil_of_left_ne_nil hne rest) (List.length_pos_iff.mpr hne)
  -- no more is given than was asked for, so the cut is within `bytes`
  have hprefix : given.val <+: bytes :=
    List.prefix_of_prefix_length_le ⟨left, hleft.symm⟩ (List.prefix_append bytes rest) given.property
  obtain ⟨more, hmore⟩ := hprefix
  obtain rfl : left = more ++ rest := by
    refine List.append_cancel_left (?_ : given.val ++ left = given.val ++ (more ++ rest))
    rw [← hleft, ← List.append_assoc, hmore]
  exact ⟨given, s', more, hread, hgiven, hmore.symm, hs'⟩

/-- However few octets are given at a time, a reading gets as many as it asks for if there are so
many, and leaves the others. -/
theorem Supplies.readUpTo (h : link.Supplies Unread) {bytes rest : Bytes} {s : σ}
    (hs : Unread s (bytes ++ rest)) :
    ∃ s', link.readUpTo bytes.length s = (⟨bytes, none⟩, s') ∧ Unread s' rest := by
  generalize hlimit : bytes.length = limit
  fun_induction link.readUpTo limit s generalizing bytes with
  | case1 s =>
    obtain rfl := List.length_eq_zero_iff.mp hlimit
    exact ⟨s, rfl, hs⟩
  -- something is left, so the link neither fails nor gives nothing
  | case2 limit s hpos e s' hread =>
    subst hlimit
    obtain ⟨given, s'', more, hok, -⟩ := h.read_within hs (mt List.length_eq_zero_iff.mpr hpos)
    rw [hread] at hok
    exact nomatch hok
  | case3 limit s hpos hle s' hread =>
    subst hlimit
    obtain ⟨given, s'', more, hok, hgiven, -⟩ :=
      h.read_within hs (mt List.length_eq_zero_iff.mpr hpos)
    rw [hread] at hok
    obtain ⟨rfl, rfl⟩ := by simpa using hok
    exact absurd rfl hgiven
  | case4 limit s hpos b given hle s' hread answer s'' hrest ih =>
    subst hlimit
    obtain ⟨given', s₁, more, hok, -, hmore, hs₁⟩ :=
      h.read_within hs (mt List.length_eq_zero_iff.mpr hpos)
    rw [hread] at hok
    obtain ⟨rfl, rfl⟩ := by simpa using hok
    -- the loop goes on for `more`, with `rest` behind it as before
    obtain ⟨s₂, hall, hs₂⟩ := ih hs₁ (by rw [hmore, List.length_append, Nat.add_sub_cancel_left])
    rw [hrest] at hall
    obtain ⟨rfl, rfl⟩ := Prod.mk.inj hall
    exact ⟨s'', by rw [hmore], hs₂⟩

/-! ## One frame -/

/-- One frame is written whole, and flushed. -/
theorem Absorbs.writeFrame (h : link.Absorbs Taken) {payload taken : Bytes} {s : σ}
    (hsize : payload.length < Frame.sizeBound) (hs : Taken s taken) :
    ∃ s', link.writeFrame payload s = (.ok (), s') ∧ Taken s' (taken ++ Frame.octets payload) := by
  -- flushing takes nothing more, so what is taken is the frame
  obtain ⟨s₁, hwrite, hs₁⟩ := h.writeAll (Frame.octets payload) hs
  obtain ⟨s₂, hflush, hs₂⟩ := h.flush hs₁
  refine ⟨s₂, ?_, hs₂⟩
  simp only [Link.writeFrame, Frame.encode_eq_ok hsize, hwrite, hflush]

/-- A payload that no frame can announce is not written, not even in part. -/
theorem writeFrame_of_too_large {payload : Bytes} (h : Frame.sizeBound ≤ payload.length) (s : σ) :
    link.writeFrame payload s = (.error (.frameTooLarge payload.length), s) := by
  simp only [Link.writeFrame, Frame.encode_eq_error h]

/-- One frame is read, and what follows it is left. -/
theorem Supplies.readFrame (h : link.Supplies Unread) {payload rest : Bytes} {s : σ}
    (hsize : payload.length < Frame.sizeBound) (hs : Unread s (Frame.octets payload ++ rest)) :
    ∃ s', link.readFrame s = (.ok (some payload), s') ∧ Unread s' rest := by
  rw [Frame.octets, List.append_assoc] at hs
  -- the header is four octets, and it announces the payload that follows it
  obtain ⟨s₁, hheader, hs₁⟩ := h.readUpTo hs
  obtain ⟨s₂, hpayload, hs₂⟩ := h.readUpTo hs₁
  refine ⟨s₂, ?_, hs₂⟩
  rw [Frame.length_header] at hheader
  simp only [Link.readFrame, hheader, Frame.length_header, Nat.lt_irrefl, if_false,
    Frame.announced_header hsize, hpayload]

/-! ## Any number of frames -/

/-- Write the frames of payloads, one after the other, as long as none fails. -/
def writeFrames (link : Link σ) : List Bytes → σ → Except Wire.Error Unit × σ
  | [], s => (.ok (), s)
  | payload :: payloads, s =>
    match link.writeFrame payload s with
    | (.error e, s) => (.error e, s)
    | (.ok (), s) => writeFrames link payloads s

/-- What so many readings of a frame answer, in order. -/
def readFrames (link : Link σ) : Nat → σ → List (Except Wire.Error (Option Bytes)) × σ
  | 0, s => ([], s)
  | n + 1, s =>
    let (answer, s) := link.readFrame s
    let (answers, s) := readFrames link n s
    (answer :: answers, s)

/-- The frames of payloads are written in order, whatever was written before them. -/
theorem Absorbs.writeFrames (h : link.Absorbs Taken) {payloads : List Bytes} {taken : Bytes} {s : σ}
    (hsize : ∀ payload ∈ payloads, payload.length < Frame.sizeBound) (hs : Taken s taken) :
    ∃ s', link.writeFrames payloads s = (.ok (), s') ∧ Taken s' (taken ++ Frame.stream payloads) := by
  -- by induction on the payloads: one frame, and the others behind what is then taken
  induction payloads generalizing taken s with
  | nil => exact ⟨s, rfl, by rwa [Frame.stream_nil, List.append_nil]⟩
  | cons payload payloads ih =>
    rw [List.forall_mem_cons] at hsize
    obtain ⟨s₁, hframe, hs₁⟩ := h.writeFrame hsize.1 hs
    obtain ⟨s₂, hframes, hs₂⟩ := ih hsize.2 hs₁
    rw [List.append_assoc, ← Frame.stream_cons] at hs₂
    exact ⟨s₂, by simp only [Link.writeFrames, hframe, hframes], hs₂⟩

/-- As many readings as there are frames give the payloads and leave what follows the frames. -/
theorem Supplies.readFrames (h : link.Supplies Unread) {payloads : List Bytes} {rest : Bytes} {s : σ}
    (hsize : ∀ payload ∈ payloads, payload.length < Frame.sizeBound)
    (hs : Unread s (Frame.stream payloads ++ rest)) :
    ∃ s', link.readFrames payloads.length s = (payloads.map fun payload => .ok (some payload), s') ∧
      Unread s' rest := by
  -- by induction on the payloads: what follows the first frame is the other frames and the rest
  induction payloads generalizing s with
  | nil => exact ⟨s, rfl, hs⟩
  | cons payload payloads ih =>
    rw [List.forall_mem_cons] at hsize
    rw [Frame.stream_cons, List.append_assoc] at hs
    obtain ⟨s₁, hframe, hs₁⟩ := h.readFrame hsize.1 hs
    obtain ⟨s₂, hframes, hs₂⟩ := ih hsize.2 hs₁
    exact ⟨s₂, by simp only [List.length_cons, Link.readFrames, hframe, hframes, List.map_cons], hs₂⟩

end Link

/-! ## A pipe -/

/-- A pipe with octets in it, and for each of the next operations on it how many octets that
operation can move beyond the first. An operation behind these moves all that it is asked to. -/
structure Pipe where
  octets : Bytes
  pieces : List Nat
  deriving DecidableEq, Repr

namespace Pipe

/-- How many of so many octets the next operation moves. -/
def portion (p : Pipe) (size : Nat) : Nat :=
  match p.pieces with
  | [] => size
  | piece :: _ => min (piece + 1) size

/-- An operation moves no more than is asked of it. -/
theorem portion_le (p : Pipe) (size : Nat) : p.portion size ≤ size := by
  unfold portion
  split <;> omega

/-- An operation that is asked for something moves something. -/
theorem portion_pos (p : Pipe) {size : Nat} (h : 0 < size) : 0 < p.portion size := by
  unfold portion
  split <;> omega

/-- The two ends of a pipe as one link. -/
def link : Link Pipe where
  write := fun bytes p =>
    let n := p.portion bytes.length
    (.ok ⟨n, p.portion_le _⟩, ⟨p.octets ++ bytes.take n, p.pieces.tail⟩)
  flush := fun p => (.ok (), p)
  read := fun limit p =>
    let n := p.portion (min limit p.octets.length)
    (.ok ⟨p.octets.take n, by
        have := p.portion_le (min limit p.octets.length)
        rw [List.length_take]
        omega⟩,
      ⟨p.octets.drop n, p.pieces.tail⟩)
  shutdown := fun p => (.ok (), p)

/-- Every schedule of partial writings. -/
theorem absorbs : link.Absorbs fun p taken => p.octets = taken where
  write := by
    rintro p taken bytes rfl hne
    exact ⟨_, _, rfl, p.portion_pos (List.length_pos_iff.mpr hne), rfl⟩
  flush := fun hs => ⟨_, rfl, hs⟩

/-- Every schedule of partial readings. -/
theorem supplies : link.Supplies fun p unread => p.octets = unread where
  read := by
    rintro p bytes limit rfl hne hlimit
    have hpos : 0 < p.portion (min limit p.octets.length) :=
      p.portion_pos (Nat.lt_min.mpr ⟨hlimit, List.length_pos_iff.mpr hne⟩)
    -- what is given is a cut of what is left, and not empty as something is left and asked for
    refine ⟨_, _, rfl, ?_, _, (List.take_append_drop _ _).symm, rfl⟩
    simp only [ne_eq, List.take_eq_nil_iff, hne, or_false]
    omega

end Pipe

/-! ## Round trip -/

/-- Whatever pieces the links make of it: the frames of payloads that a frame can announce are all
written, and readings of a frame give the payloads one by one, each leaving the next frame and all
that follows it unread. A payload that no frame can announce is refused before anything is
written, by every link. -/
theorem frames_cross {out : Link σ} {back : Link τ} {Taken : σ → Bytes → Prop}
    {Unread : τ → Bytes → Prop} (hout : out.Absorbs Taken) (hback : back.Supplies Unread) :
    (∀ payloads : List Bytes, (∀ payload ∈ payloads, payload.length ≤ 0xffffffff) →
      ∀ s taken, Taken s taken → ∃ s', out.writeFrames payloads s = (.ok (), s') ∧
        Taken s' (taken ++ Frame.stream payloads) ∧
        ∀ r t, Unread r (Frame.stream payloads ++ t) → ∀ k ≤ payloads.length, ∃ r',
          back.readFrames k r = ((payloads.take k).map fun payload => .ok (some payload), r') ∧
          Unread r' (Frame.stream (payloads.drop k) ++ t)) ∧
    ∀ payload : Bytes, 0xffffffff < payload.length →
      Frame.encode payload = .error (.frameTooLarge payload.length) ∧
      ∀ (link : Link σ) (s : σ),
        link.writeFrame payload s = (.error (.frameTooLarge payload.length), s) := by
  constructor
  -- the octets announced are at most `0xffffffff`, one below the bound of the frame
  · intro payloads hsize s taken hs
    have hsize : ∀ payload ∈ payloads, payload.length < Frame.sizeBound := fun payload hmem =>
      Nat.lt_of_le_of_lt (hsize payload hmem) (by decide)
    obtain ⟨s', hwrite, hs'⟩ := hout.writeFrames hsize hs
    refine ⟨s', hwrite, hs', fun r t hr k hk => ?_⟩
    -- the frames behind the first `k` are part of what follows them
    rw [← List.take_append_drop k payloads, Frame.stream_append, List.append_assoc] at hr
    obtain ⟨r', hread, hr'⟩ := hback.readFrames
      (fun payload hmem => hsize payload (List.mem_of_mem_take hmem)) hr
    rw [List.length_take_of_le hk] at hread
    exact ⟨r', hread, hr'⟩
  · intro payload hsize
    have hsize : Frame.sizeBound ≤ payload.length := hsize
    exact ⟨Frame.encode_eq_error hsize, fun link s => Link.writeFrame_of_too_large hsize s⟩

/-- Three payloads, one of them empty, go through pipes that first move single octets or cut through
headers; the third frame and what follows it are still there after two readings. -/
theorem frames_cross_in_pieces :
    let payloads : List Bytes := [[7, 8], [], [9]]
    (∃ s', Pipe.link.writeFrames payloads ⟨[], [0, 2, 6, 0, 0]⟩ = (.ok (), s') ∧
      s'.octets = [0, 0, 0, 2, 7, 8, 0, 0, 0, 0, 0, 0, 0, 1, 9]) ∧
    (∃ r', Pipe.link.readFrames 2 ⟨Frame.stream payloads ++ [255], [1, 0, 0, 0, 4, 2]⟩ =
        ([.ok (some [7, 8]), .ok (some [])], r') ∧ r'.octets = [0, 0, 0, 1, 9, 255]) ∧
    ∀ p : Pipe, Pipe.link.writeFrame (List.replicate 0x100000000 0) p =
      (.error (.frameTooLarge 0x100000000), p) := by
  intro payloads
  obtain ⟨hcross, hrefused⟩ := frames_cross Pipe.absorbs Pipe.supplies
  obtain ⟨s', hwrite, hs', hread⟩ := hcross payloads (by decide) ⟨[], [0, 2, 6, 0, 0]⟩ [] rfl
  -- a payload of this size is never built, only its length is looked at
  have hlarge := (hrefused (List.replicate 0x100000000 0) (by rw [List.length_replicate]; omega)).2
  rw [List.length_replicate] at hlarge
  exact ⟨⟨s', hwrite, hs'⟩, hread ⟨_, [1, 0, 0, 0, 4, 2]⟩ [255] rfl 2 (by decide),
    hlarge Pipe.link⟩

end PolicyReplay
