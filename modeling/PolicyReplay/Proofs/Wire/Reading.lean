import PolicyReplay.Controller.Scripted
import PolicyReplay.Proofs.Wire.Split

/-!
# What readings of frames come to

What a reading of a frame answers is decided by the octets that are left and by how the stream ends
behind them, and not by the pieces in which the octets come. If there is a frame in front, its
payload is answered and what follows the frame is left; else the octets break off within a frame,
and nothing of that frame is answered.

`Ends` describes a link by what is left to read from it and by the failure that follows, if one
does.

## Key results

- `Ends.read_cases`, `Ends.readUpTo_short`: one reading, and a reading of more octets than are left
- `Ends.readFrame_brokenOff`: a reading of a frame that breaks off
- `frames_read_exactly`: what readings of frames come to, whatever the octets are
- `Scripted.ends`: a scripted controller is such a link
-/

namespace PolicyReplay

variable {σ : Type}

namespace Link

variable {link : Link σ} {failure : Option SystemError} {Unread : σ → Bytes → Prop} {r : σ}
  {s : Bytes}

/-- A link that gives what is left in whatever pieces, and then ends: with a failure if there is
one, and else with the end of the stream, again and again. -/
structure Ends (link : Link σ) (failure : Option SystemError) (Unread : σ → Bytes → Prop) : Prop
    extends Supplies link Unread where
  closed : failure = none → ∀ {r limit}, Unread r [] → 0 < limit →
    ∃ given r', link.read limit r = (.ok given, r') ∧ given.val = [] ∧ Unread r' []
  failed : ∀ cause, failure = some cause → ∀ {r limit}, Unread r [] → 0 < limit →
    ∃ r', link.read limit r = (.error cause, r')

/-! ## Pieces -/

/-- A single reading gets some of what is left, or it meets the end because nothing is left. -/
theorem Ends.read_cases (h : link.Ends failure Unread) {limit : Nat} (hs : Unread r s)
    (hlimit : 0 < limit) :
    (∃ given r' rest, link.read limit r = (.ok given, r') ∧ given.val ≠ [] ∧
        s = given.val ++ rest ∧ Unread r' rest) ∨
      (s = [] ∧ failure = none ∧
        ∃ given r', link.read limit r = (.ok given, r') ∧ given.val = [] ∧ Unread r' []) ∨
      (s = [] ∧ ∃ cause r', failure = some cause ∧ link.read limit r = (.error cause, r')) := by
  -- only whether something is left decides what comes next
  by_cases hnil : s = []
  · subst hnil
    cases hfailure : failure with
    | none => exact .inr (.inl ⟨rfl, rfl, h.closed hfailure hs hlimit⟩)
    | some cause =>
      obtain ⟨r', hread⟩ := h.failed cause hfailure hs hlimit
      exact .inr (.inr ⟨rfl, cause, r', rfl, hread⟩)
  · obtain ⟨given, r', hread, hgiven, rest, hrest, hs'⟩ := h.read hs hnil hlimit
    exact .inl ⟨given, r', rest, hread, hgiven, hrest, hs'⟩

/-- The link fails only where nothing is left. -/
theorem Ends.of_read_error (h : link.Ends failure Unread) {limit : Nat} {e : SystemError} {r' : σ}
    (hs : Unread r s) (hlimit : 0 < limit) (hread : link.read limit r = (.error e, r')) :
    s = [] ∧ failure = some e := by
  -- of the three cases, only the last one answers an error
  rcases h.read_cases hs hlimit with
    ⟨given, _, _, hok, -⟩ | ⟨-, -, given, _, hok, -⟩ | ⟨rfl, cause, _, rfl, herror⟩
  · simp [hread] at hok
  · simp [hread] at hok
  · rw [hread] at herror
    simp only [Prod.mk.injEq, Except.error.injEq] at herror
    exact ⟨rfl, congrArg some herror.1.symm⟩

/-- What the link gives is some of what is left, and it gives nothing only at the end. -/
theorem Ends.of_read_ok (h : link.Ends failure Unread) {limit : Nat}
    {given : { bytes : Bytes // bytes.length ≤ limit }} {r' : σ} (hs : Unread r s)
    (hlimit : 0 < limit) (hread : link.read limit r = (.ok given, r')) :
    (∃ rest, given.val ≠ [] ∧ s = given.val ++ rest ∧ Unread r' rest) ∨
      (given.val = [] ∧ s = [] ∧ failure = none ∧ Unread r' []) := by
  -- and that one is the only one to be excluded here
  rcases h.read_cases hs hlimit with
    ⟨_, _, rest, hok, hgiven, hrest, hs'⟩ | ⟨hnil, hfailure, _, _, hok, hgiven, hs'⟩ |
      ⟨-, cause, _, -, herror⟩
  · rw [hread] at hok
    simp only [Prod.mk.injEq, Except.ok.injEq] at hok
    obtain ⟨rfl, rfl⟩ := hok
    exact .inl ⟨rest, hgiven, hrest, hs'⟩
  · rw [hread] at hok
    simp only [Prod.mk.injEq, Except.ok.injEq] at hok
    obtain ⟨rfl, rfl⟩ := hok
    exact .inr ⟨hgiven, hnil, hfailure, hs'⟩
  · simp [hread] at herror

/-- A reading of more octets than are left gets those that are left, and meets the end. -/
theorem Ends.readUpTo_short (h : link.Ends failure Unread) {limit : Nat} (hs : Unread r s)
    (hshort : s.length < limit) :
    ∃ r', link.readUpTo limit r = (⟨s, failure⟩, r') ∧ (failure = none → Unread r' []) := by
  -- the loop stops at a failure or at the end, or it goes on with what is left
  fun_induction link.readUpTo limit r generalizing s with
  | case1 r => exact absurd hshort (Nat.not_lt_zero _)
  | case2 limit r hpos e r' hread =>
    obtain ⟨rfl, rfl⟩ := h.of_read_error hs (Nat.pos_of_ne_zero hpos) hread
    exact ⟨r', rfl, by simp⟩
  | case3 limit r hpos hle r' hread =>
    rcases h.of_read_ok hs (Nat.pos_of_ne_zero hpos) hread with
      ⟨_, hgiven, -⟩ | ⟨-, rfl, rfl, hs'⟩
    · exact absurd rfl hgiven
    · exact ⟨r', rfl, fun _ => hs'⟩
  | case4 limit r hpos b bytes hle r' hread answer r'' hrest ih =>
    rcases h.of_read_ok hs (Nat.pos_of_ne_zero hpos) hread with
      ⟨rest, -, rfl, hs₁⟩ | ⟨hgiven, -⟩
    · -- the loop goes on for the others, of which it asks for too many again
      have hless : rest.length < limit - (b :: bytes).length := by
        change (b :: bytes ++ rest).length < limit at hshort
        rw [List.length_append] at hshort
        omega
      obtain ⟨r₂, hall, hs₂⟩ := ih hs₁ hless
      rw [hrest] at hall
      obtain ⟨rfl, rfl⟩ := Prod.mk.inj hall
      exact ⟨r'', rfl, hs₂⟩
    · exact absurd hgiven (List.cons_ne_nil b bytes)

/-! ## Frames that break off -/

/-- What a reading of a frame answers where the octets that are left break off within one. Only a
failure that means an unexpected end, and that comes before the header is there, counts as the end
of the stream. -/
def answerAtEnd (failure : Option SystemError) (left : Bytes) :
    Except Wire.Error (Option Bytes) :=
  match failure with
  | none => .ok none
  | some cause =>
    if left.length < Frame.headerLength ∧ cause.kind = .unexpectedEof then .ok none
    else .error (.io cause)

/-- At the end of the octets no payload is answered. -/
theorem answerAtEnd_ne_ok_some (failure : Option SystemError) (left payload : Bytes) :
    answerAtEnd failure left ≠ .ok (some payload) := by
  unfold answerAtEnd
  split
  · exact fun h => nomatch h
  · split
    · exact fun h => nomatch h
    · exact fun h => nomatch h

/-- Nothing is answered of a frame that breaks off. -/
theorem Ends.readFrame_brokenOff (h : link.Ends failure Unread) (hs : Unread r s)
    (hbroken : Frame.BrokenOff s) :
    ∃ r', link.readFrame r = (answerAtEnd failure s, r') ∧ (failure = none → Unread r' []) := by
  -- the octets break off in the header or in what it announces
  rcases hbroken.cases with hheader | ⟨size, body, hsize, rfl, hbody⟩
  · obtain ⟨r₁, hread, hs₁⟩ := h.readUpTo_short hs hheader
    refine ⟨r₁, ?_, hs₁⟩
    cases failure with
    | none => simp only [readFrame, hread, if_pos hheader, answerAtEnd]
    | some cause =>
      simp only [readFrame, hread, answerAtEnd, hheader, true_and]
      split
      · rfl
      · rfl
  · -- the header is there, and what it announces is not
    obtain ⟨r₁, hread, hs₁⟩ := h.readUpTo hs
    obtain ⟨r₂, hrest, hs₂⟩ := h.readUpTo_short hs₁ hbody
    rw [Frame.length_header] at hread
    -- so the failure is not taken for the end of the stream
    have hlong : ¬ (Frame.header size ++ body).length < Frame.headerLength := by
      rw [List.length_append, Frame.length_header]
      omega
    refine ⟨r₂, ?_, hs₂⟩
    cases failure with
    | none =>
      simp only [readFrame, hread, Frame.length_header, Nat.lt_irrefl, if_false,
        Frame.announced_header hsize, hrest, if_pos hbody, answerAtEnd]
    | some cause =>
      simp only [readFrame, hread, Frame.length_header, Nat.lt_irrefl, if_false,
        Frame.announced_header hsize, hrest, answerAtEnd, hlong, false_and]

/-- Where nothing is left and nothing fails, every reading meets the end of the stream. -/
theorem Ends.readFrames_nil (h : link.Ends none Unread) (hs : Unread r []) (n : Nat) :
    ∃ r', link.readFrames n r = (List.replicate n (.ok none), r') ∧ Unread r' [] := by
  -- the end of the stream is met again and again
  induction n generalizing r with
  | zero => exact ⟨r, rfl, hs⟩
  | succ n ih =>
    obtain ⟨r₁, hread, hs₁⟩ := h.readFrame_brokenOff hs Frame.brokenOff_nil
    obtain ⟨r₂, hreads, hs₂⟩ := ih (hs₁ rfl)
    exact ⟨r₂, by simp only [readFrames, hread, hreads, answerAtEnd, List.replicate_succ], hs₂⟩

/-- Readings after readings. -/
theorem readFrames_add (link : Link σ) (m n : Nat) (r : σ) :
    link.readFrames (m + n) r =
      ((link.readFrames m r).1 ++ (link.readFrames n (link.readFrames m r).2).1,
        (link.readFrames n (link.readFrames m r).2).2) := by
  -- the first readings leave the link where the others begin
  induction m generalizing r with
  | zero => simp [readFrames]
  | succ m ih => simp only [Nat.succ_add, readFrames, ih, List.cons_append]

/-- Readings of octets that are cut into frames: first the payloads, and then what comes of the
rest. -/
theorem Ends.readFrames_splits (h : link.Ends failure Unread) (hs : Unread r s)
    {payloads : List Bytes} {rest : Bytes} (hsplits : Frame.Splits s payloads rest) :
    (link.readFrames (payloads.length + 1) r).1 =
      payloads.map (fun payload => .ok (some payload)) ++ [answerAtEnd failure rest] := by
  -- the payloads first, and the reading after them meets what breaks off
  obtain ⟨r₁, hpayloads, hs₁⟩ := h.readFrames hsplits.sized (hsplits.octets_eq ▸ hs)
  obtain ⟨r₂, hend, -⟩ := h.readFrame_brokenOff hs₁ hsplits.rest_brokenOff
  rw [readFrames_add, hpayloads]
  simp only [readFrames, hend]

/-- If the stream ends without a failure, every further reading meets its end. -/
theorem Ends.readFrames_splits_closed (h : link.Ends none Unread) (hs : Unread r s)
    {payloads : List Bytes} {rest : Bytes} (hsplits : Frame.Splits s payloads rest) (n : Nat) :
    (link.readFrames (payloads.length + n) r).1 =
      payloads.map (fun payload => .ok (some payload)) ++ List.replicate n (.ok none) := by
  obtain ⟨r₁, hpayloads, hs₁⟩ := h.readFrames hsplits.sized (hsplits.octets_eq ▸ hs)
  cases n with
  -- with nothing further to be read, the payloads are all there is
  | zero => simp [hpayloads]
  | succ n =>
    obtain ⟨r₂, hend, hs₂⟩ := h.readFrame_brokenOff hs₁ hsplits.rest_brokenOff
    obtain ⟨r₃, hnone, -⟩ := h.readFrames_nil (hs₂ rfl) n
    rw [readFrames_add, hpayloads]
    simp only [readFrames, hend, hnone, answerAtEnd, List.replicate_succ]

/-! ## All octets -/

/-- What readings of frames come to where `s` is left and `failure` is how the stream ends. -/
structure ReadsExactly (link : Link σ) (failure : Option SystemError) (Unread : σ → Bytes → Prop)
    (r : σ) (s : Bytes) : Prop where
  /-- A payload is answered exactly if the octets begin with its frame. -/
  payload_iff : ∀ payload, (link.readFrame r).1 = .ok (some payload) ↔
    ∃ frame, Frame.encode payload = .ok frame ∧ frame <+: s
  /-- Then the octets of the frame are consumed, and no others. -/
  consumed : ∀ payload frame rest, Frame.encode payload = .ok frame → s = frame ++ rest →
    Unread (link.readFrame r).2 rest
  /-- Octets that begin with no frame are part of one. -/
  part : (∀ payload frame, Frame.encode payload = .ok frame → ¬ frame <+: s) →
    ∃ payload frame, Frame.encode payload = .ok frame ∧ s <+: frame ∧ s ≠ frame
  /-- If they are followed by the end of the stream, all of them are consumed, and that end is
  answered from then on. -/
  closed : failure = none →
    (∀ payload frame, Frame.encode payload = .ok frame → ¬ frame <+: s) →
    (link.readFrame r).1 = .ok none ∧ Unread (link.readFrame r).2 [] ∧
      ∀ n, (link.readFrames n (link.readFrame r).2).1 = List.replicate n (.ok none)
  /-- If they are followed by a failure, that is answered, unless it says that the stream has ended
  and comes before the header is there. -/
  failed : ∀ cause, failure = some cause →
    (∀ payload frame, Frame.encode payload = .ok frame → ¬ frame <+: s) →
    (link.readFrame r).1 =
      if s.length < 4 ∧ cause.kind = .unexpectedEof then .ok none else .error (.io cause)
  /-- An empty payload is answered as soon as its header is there. -/
  empty : [0, 0, 0, 0] <+: s →
    link.readFrame r = (.ok (some []), (link.readUpTo Frame.headerLength r).2)
  /-- A payload that is shorter than announced is not answered. -/
  unshortened : ∀ size body, size < Frame.sizeBound → s = Frame.header size ++ body →
    body.length < size → ∀ payload, (link.readFrame r).1 ≠ .ok (some payload)
  /-- The octets can be cut into frames in one way only, and the readings answer the payloads of
  these frames in order, and then what becomes of the rest. -/
  frames : ∃ payloads rest, Frame.Splits s payloads rest ∧
    (∀ payloads' rest', Frame.Splits s payloads' rest' → payloads' = payloads ∧ rest' = rest) ∧
    (link.readFrames (payloads.length + 1) r).1 =
      payloads.map (fun payload => .ok (some payload)) ++ [answerAtEnd failure rest]

/-- A frame in front is read, and what follows it is left. -/
theorem Supplies.readFrame_encoded (h : link.Supplies Unread) {payload frame rest : Bytes}
    (hframe : Frame.encode payload = .ok frame) (hs : Unread r (frame ++ rest)) :
    (link.readFrame r).1 = .ok (some payload) ∧ Unread (link.readFrame r).2 rest := by
  obtain ⟨hsize, rfl⟩ := Frame.encode_eq_ok_iff.mp hframe
  obtain ⟨r', hread, hs'⟩ := h.readFrame hsize hs
  rw [hread]
  exact ⟨rfl, hs'⟩

/-- Where a frame breaks off, no payload is answered. -/
theorem Ends.readFrame_ne_some (h : link.Ends failure Unread) (hs : Unread r s)
    (hbroken : Frame.BrokenOff s) (payload : Bytes) :
    (link.readFrame r).1 ≠ .ok (some payload) := by
  obtain ⟨r', hread, -⟩ := h.readFrame_brokenOff hs hbroken
  rw [hread]
  exact answerAtEnd_ne_ok_some failure s payload

/-- Whatever is left and however the stream ends, readings answer the payloads whose frames are
there, and nothing else. -/
theorem frames_read_exactly (h : link.Ends failure Unread) (hs : Unread r s) :
    ReadsExactly link failure Unread r s where
  payload_iff := by
    intro payload
    constructor
    · intro hread
      -- a payload is only answered if a frame can be cut off, and then it is the one of that frame
      cases hnext : Frame.next? s with
      | none =>
        have hbroken := Frame.next?_eq_none_iff.mp hnext
        exact absurd hread (h.readFrame_ne_some hs hbroken payload)
      | some first =>
        obtain ⟨payload', rest⟩ := first
        obtain ⟨hsize, rfl⟩ := Frame.next?_eq_some_iff.mp hnext
        have hframe := Frame.encode_eq_ok hsize
        rw [(h.readFrame_encoded hframe hs).1] at hread
        obtain rfl := Option.some.inj (Except.ok.inj hread)
        exact ⟨_, hframe, List.prefix_append _ _⟩
    · rintro ⟨frame, hframe, rest, rfl⟩
      exact (h.readFrame_encoded hframe hs).1
  consumed := by
    rintro payload frame rest hframe rfl
    exact (h.readFrame_encoded hframe hs).2
  part := by
    intro hfree
    -- octets that begin with no frame break off in one
    obtain ⟨payload, hsize, hprefix, hne⟩ := Frame.brokenOff_iff_no_prefix.mpr hfree
    exact ⟨payload, _, Frame.encode_eq_ok hsize, hprefix, hne⟩
  closed := by
    rintro rfl hfree
    -- the same here: there is no frame, so the octets break off in one
    obtain ⟨r₁, hread, hs₁⟩ := h.readFrame_brokenOff hs (Frame.brokenOff_iff_no_prefix.mpr hfree)
    rw [hread]
    refine ⟨rfl, hs₁ rfl, fun n => ?_⟩
    obtain ⟨r₂, hreads, -⟩ := h.readFrames_nil (hs₁ rfl) n
    rw [hreads]
  failed := by
    rintro cause rfl hfree
    obtain ⟨r₁, hread, -⟩ := h.readFrame_brokenOff hs (Frame.brokenOff_iff_no_prefix.mpr hfree)
    rw [hread]
    rfl
  empty := by
    rintro ⟨rest, rfl⟩
    -- the header announces nothing, so nothing is asked for
    have hheader : Unread r (Frame.header 0 ++ rest) := hs
    obtain ⟨r₁, hread, -⟩ := h.readUpTo hheader
    rw [Frame.length_header] at hread
    have hnothing : link.readUpTo 0 r₁ = (⟨[], none⟩, r₁) := by rw [readUpTo, dif_pos rfl]
    simp only [readFrame, hread, Frame.length_header, Nat.lt_irrefl, if_false,
      Frame.announced_header (by decide : 0 < Frame.sizeBound), hnothing, List.length_nil]
  unshortened := by
    rintro size body hsize rfl hbody
    exact h.readFrame_ne_some hs (Frame.brokenOff_header_append hsize hbody)
  frames := by
    -- the octets are cut in some way, and it is the only one
    obtain ⟨payloads, rest, hsplits⟩ := Frame.exists_splits s
    exact ⟨payloads, rest, hsplits, fun _ _ hsplits' => hsplits'.unique hsplits,
      h.readFrames_splits hs hsplits⟩

end Link

/-! ## Links that end -/

/-- A pipe ends without a failure, for every schedule of its pieces. -/
theorem Pipe.ends : Pipe.link.Ends none fun p unread => p.octets = unread where
  toSupplies := Pipe.supplies
  closed := by
    -- a pipe in which nothing is left gives nothing, whatever its schedule
    rintro - ⟨octets, pieces⟩ limit hnil -
    obtain rfl : octets = [] := hnil
    exact ⟨_, _, rfl, List.take_nil, List.drop_nil⟩
  failed := fun _ h => nomatch h

/-- A scripted controller gives something of what is asked for unless its pieces are empty. -/
theorem Scripted.State.portion_pos {s : State} (hchunk : s.script.chunk ≠ some 0) {size : Nat}
    (hsize : 0 < size) : 0 < s.portion size := by
  unfold portion
  split
  -- a piece of the script is no larger than what is asked for, and it is not empty
  · exact hsize
  · rename_i chunk hsome
    have hpos : chunk ≠ 0 := by
      rintro rfl
      exact hchunk hsome
    omega

/-- Where the queue holds something, that is read, whatever failure waits behind it. -/
theorem Scripted.State.read_of_ne_nil {s : State} (hne : s.queue ≠ []) (limit : Nat) :
    ∃ given, s.read limit = (.ok given, { s with queue := s.queue.drop (s.portion limit) }) ∧
      given.val = s.queue.take (s.portion limit) := by
  unfold read
  split
  · rename_i hnil _
    exact absurd hnil hne
  · exact ⟨_, rfl, rfl⟩

/-- A scripted controller with pieces that are not empty ends as its script says. -/
theorem Scripted.ends (failure : Option SystemError) :
    Scripted.link.Ends failure fun s unread =>
      s.queue = unread ∧ s.failure = failure ∧ s.script.chunk ≠ some 0 where
  read := by
    rintro s bytes limit ⟨rfl, hfailure, hchunk⟩ hne hlimit
    obtain ⟨given, hread, hgiven⟩ := State.read_of_ne_nil hne limit
    -- at least one octet is given, and the others stay in the queue
    refine ⟨given, _, hread, ?_, _, ?_, rfl, hfailure, hchunk⟩
    · have hpos := State.portion_pos hchunk hlimit
      simp only [hgiven, ne_eq, List.take_eq_nil_iff, hne, or_false]
      omega
    · rw [hgiven, List.take_append_drop]
  closed := by
    rintro rfl s limit ⟨hqueue, hfailure, hchunk⟩ -
    -- nothing waits behind the queue, so the end is told
    obtain ⟨script, replies, queue, waiting, partialFrame, received, finished, closed⟩ := s
    obtain rfl : queue = [] := hqueue
    obtain rfl : waiting = none := hfailure
    exact ⟨_, _, rfl, List.take_nil, List.drop_nil, rfl, hchunk⟩
  failed := by
    rintro cause rfl s limit ⟨hqueue, hfailure, -⟩ -
    -- the failure that waits is given once the queue is empty
    obtain ⟨script, replies, queue, waiting, partialFrame, received, finished, closed⟩ := s
    obtain rfl : queue = [] := hqueue
    obtain rfl : waiting = some cause := hfailure
    exact ⟨_, rfl⟩

/-- Two frames and part of a third, through a pipe that moves few octets at a time and then ends,
and from a controller that gives single octets and then fails. -/
theorem frames_read_exactly_cut_short :
    let s : Bytes := [0, 0, 0, 2, 7, 8, 0, 0, 0, 0, 0, 0, 0, 3, 9]
    let pipe : Pipe := ⟨s, [0, 2, 6, 0, 0]⟩
    let reset : SystemError := ⟨.connectionReset, "reset"⟩
    let controller : Scripted.State :=
      { script := { chunk := some 1 }, replies := [], queue := s, failure := some reset }
    (Pipe.link.ReadsExactly none (fun p unread => p.octets = unread) pipe s ∧
      (Pipe.link.readFrames 3 pipe).1 = [.ok (some [7, 8]), .ok (some []), .ok none]) ∧
    (Scripted.link.ReadsExactly (some reset)
        (fun s unread => s.queue = unread ∧ s.failure = some reset ∧ s.script.chunk ≠ some 0)
        controller s ∧
      (Scripted.link.readFrames 3 controller).1 =
        [.ok (some [7, 8]), .ok (some []), .error (.io reset)]) := by
  intro s pipe reset controller
  have hsplits : Frame.Splits s [[7, 8], []] [0, 0, 0, 3, 9] :=
    ⟨by decide, rfl, Frame.brokenOff_header_append (by decide : 3 < Frame.sizeBound)
      (by decide : ([9] : Bytes).length < 3)⟩
  have hpipe : Pipe.link.ReadsExactly none (fun p unread => p.octets = unread) pipe s :=
    Link.frames_read_exactly Pipe.ends rfl
  have hcontroller : Scripted.link.ReadsExactly (some reset)
      (fun s unread => s.queue = unread ∧ s.failure = some reset ∧ s.script.chunk ≠ some 0)
      controller s :=
    Link.frames_read_exactly (Scripted.ends (some reset)) ⟨rfl, rfl, by decide⟩
  refine ⟨⟨hpipe, ?_⟩, hcontroller, ?_⟩
  -- the octets are cut in one way only, so it is the one that is given above
  · obtain ⟨payloads, rest, -, hunique, hanswers⟩ := hpipe.frames
    obtain ⟨rfl, rfl⟩ := hunique _ _ hsplits
    exact hanswers
  · obtain ⟨payloads, rest, -, hunique, hanswers⟩ := hcontroller.frames
    obtain ⟨rfl, rfl⟩ := hunique _ _ hsplits
    exact hanswers

end PolicyReplay
