import PolicyReplay.Proofs.Wire.Stream

/-!
# Cutting octets into frames

Any octets begin with the frame of one payload, or they break off within a frame. So there is one
way only to cut octets into frames: as long as there is a whole frame in front it is cut off, and
what is left in the end is part of a frame that never came.

## Key results

- `header_announced`: every four octets are the header of the length that they announce
- `next?_eq_some_iff`, `next?_eq_none_iff`: when a frame is in front, and when there is none
- `Splits.unique`, `exists_splits`: octets can be cut into frames in one way
-/

namespace PolicyReplay.Frame

variable {payload payload' s rest rest' : Bytes}

/-! ## Headers -/

/-- Four octets announce a length that a frame can have. -/
theorem announced_lt {h : Bytes} (hlength : h.length = headerLength) : announced h < sizeBound := by
  match h, hlength with
  | [a, b, c, d], _ =>
    -- each octet is less than 256, so together they announce less than 256 to the fourth power
    have ha := a.toNat_lt
    have hb := b.toNat_lt
    have hc := c.toNat_lt
    have hd := d.toNat_lt
    simp only [announced, List.foldl_cons, List.foldl_nil, sizeBound]
    omega

/-- Four octets are the header of the length that they announce. -/
theorem header_announced {h : Bytes} (hlength : h.length = headerLength) :
    header (announced h) = h := by
  match h, hlength with
  | [a, b, c, d], _ =>
    -- the four digits in base 256 of the announced number are the octets themselves
    have ha := a.toNat_lt
    have hb := b.toNat_lt
    have hc := c.toNat_lt
    have hd := d.toNat_lt
    simp only [header, announced, List.foldl_cons, List.foldl_nil, List.cons.injEq, and_true,
      ← UInt8.toNat_inj, UInt8.toNat_ofNat']
    omega

/-- A frame is as long as its header and its payload. -/
theorem length_octets (payload : Bytes) :
    (octets payload).length = headerLength + payload.length := by
  rw [octets, List.length_append, length_header]

/-- No frame is empty, as the header is there whatever the payload. -/
theorem octets_ne_nil (payload : Bytes) : octets payload ≠ [] := by
  simp [octets, header]

/-- A payload is framed exactly if its length can be announced. -/
theorem encode_eq_ok_iff {frame : Bytes} :
    encode payload = .ok frame ↔ payload.length < sizeBound ∧ frame = octets payload := by
  unfold encode
  split
  · rename_i hsize
    simp [hsize, octets, eq_comm]
  · rename_i hsize
    simp [hsize]

/-! ## One frame -/

/-- The payload of the frame in front, and what stands behind the frame. -/
def next? (s : Bytes) : Option (Bytes × Bytes) :=
  let size := announced (s.take headerLength)
  let body := s.drop headerLength
  if s.length < headerLength ∨ body.length < size then none
  else some (body.take size, body.drop size)

/-- Octets that break off within a frame. -/
def BrokenOff (s : Bytes) : Prop :=
  ∃ payload : Bytes, payload.length < sizeBound ∧ s <+: octets payload ∧ s ≠ octets payload

/-- A frame in front is found, whatever stands behind it. -/
theorem next?_octets (hsize : payload.length < sizeBound) (rest : Bytes) :
    next? (octets payload ++ rest) = some (payload, rest) := by
  -- the header is the first four octets, and the payload is at the start of the others
  have htake : (octets payload ++ rest).take headerLength = header payload.length := by
    rw [octets, List.append_assoc, ← length_header payload.length, List.take_left]
  have hdrop : (octets payload ++ rest).drop headerLength = payload ++ rest := by
    rw [octets, List.append_assoc, ← length_header payload.length, List.drop_left]
  have hlong : ¬ ((octets payload ++ rest).length < headerLength ∨
      (payload ++ rest).length < payload.length) := by
    simp only [List.length_append, length_octets]
    omega
  simp only [next?, htake, hdrop, announced_header hsize, if_neg hlong, List.take_left,
    List.drop_left]

/-- What is found in front is a frame. -/
theorem octets_of_next? (h : next? s = some (payload, rest)) :
    payload.length < sizeBound ∧ s = octets payload ++ rest := by
  simp only [next?] at h
  split at h
  · exact nomatch h
  · rename_i hlong
    -- both the header and what it announces are there in full
    obtain ⟨hheader, hbody⟩ := not_or.mp hlong
    obtain ⟨rfl, rfl⟩ := Prod.mk.inj (Option.some.inj h)
    have hfour : (s.take headerLength).length = headerLength :=
      List.length_take_of_le (Nat.le_of_not_lt hheader)
    have hsize : ((s.drop headerLength).take (announced (s.take headerLength))).length =
        announced (s.take headerLength) := List.length_take_of_le (Nat.le_of_not_lt hbody)
    refine ⟨Nat.lt_of_le_of_lt (Nat.le_of_eq hsize) (announced_lt hfour), ?_⟩
    rw [octets, hsize, header_announced hfour, List.append_assoc, List.take_append_drop,
      List.take_append_drop]

/-- Octets have a frame in front exactly if they begin with the frame of a payload. -/
theorem next?_eq_some_iff :
    next? s = some (payload, rest) ↔ payload.length < sizeBound ∧ s = octets payload ++ rest := by
  constructor
  · exact octets_of_next?
  · rintro ⟨hsize, rfl⟩
    exact next?_octets hsize rest

/-- No frame begins another one, so a payload can be told from its frame and what follows it. -/
theorem octets_append_inj (hsize : payload.length < sizeBound)
    (hsize' : payload'.length < sizeBound) (h : octets payload ++ rest = octets payload' ++ rest') :
    payload = payload' ∧ rest = rest' := by
  have hnext := next?_octets hsize rest
  rw [h, next?_octets hsize' rest'] at hnext
  obtain ⟨rfl, rfl⟩ := Prod.mk.inj (Option.some.inj hnext)
  exact ⟨rfl, rfl⟩

/-- Part of a header can be completed to a header, and the payload that it announces put behind. -/
theorem brokenOff_of_length_lt (h : s.length < headerLength) : BrokenOff s := by
  -- any octets will do to fill the header up
  let full : Bytes := s ++ List.replicate (headerLength - s.length) 0
  have hfull : full.length = headerLength := by
    simp only [full, List.length_append, List.length_replicate]
    omega
  have hframe : octets (List.replicate (announced full) 0) =
      full ++ List.replicate (announced full) 0 := by
    rw [octets, List.length_replicate, header_announced hfull]
  refine ⟨List.replicate (announced full) 0, ?_, ?_, fun heq => ?_⟩
  · rw [List.length_replicate]
    exact announced_lt hfull
  · rw [hframe]
    exact (List.prefix_append s _).trans (List.prefix_append full _)
  · have hlength := congrArg List.length heq
    rw [length_octets] at hlength
    omega

/-- A header with less behind it than it announces can be completed to a frame. -/
theorem brokenOff_header_append {size : Nat} {body : Bytes} (hsize : size < sizeBound)
    (hbody : body.length < size) : BrokenOff (header size ++ body) := by
  -- any octets will do to fill the payload up
  let full : Bytes := body ++ List.replicate (size - body.length) 0
  have hfull : full.length = size := by
    simp only [full, List.length_append, List.length_replicate]
    omega
  refine ⟨full, hfull ▸ hsize, ?_, fun heq => ?_⟩
  · rw [octets, hfull, List.prefix_append_right_inj]
    exact List.prefix_append body _
  · have hlength := congrArg List.length heq
    rw [length_octets, List.length_append, length_header] at hlength
    omega

/-- Without a frame in front, octets lack part of a header or of what it announces. -/
theorem cases_of_next?_eq_none (h : next? s = none) :
    s.length < headerLength ∨
      ∃ size body, size < sizeBound ∧ s = header size ++ body ∧ body.length < size := by
  simp only [next?] at h
  split at h
  · rename_i hcut
    by_cases hheader : s.length < headerLength
    · exact .inl hheader
    · have hfour : (s.take headerLength).length = headerLength :=
        List.length_take_of_le (Nat.le_of_not_lt hheader)
      refine .inr ⟨_, s.drop headerLength, announced_lt hfour, ?_, hcut.resolve_left hheader⟩
      rw [header_announced hfour, List.take_append_drop]
  · exact nomatch h

/-- Octets have no frame in front exactly if they break off within one. -/
theorem next?_eq_none_iff : next? s = none ↔ BrokenOff s := by
  constructor
  · intro hnone
    rcases cases_of_next?_eq_none hnone with hheader | ⟨size, body, hsize, rfl, hbody⟩
    · exact brokenOff_of_length_lt hheader
    · exact brokenOff_header_append hsize hbody
  · rintro ⟨payload, hsize, ⟨behind, hframe⟩, hne⟩
    cases hnext : next? s with
    | none => rfl
    | some first =>
      -- the frame in front would be the one that `s` is only part of
      obtain ⟨hfirst, rfl⟩ := octets_of_next? hnext
      rw [List.append_assoc, ← List.append_nil (octets payload)] at hframe
      obtain ⟨rfl, hnil⟩ := octets_append_inj hfirst hsize hframe
      rw [(List.append_eq_nil_iff.mp hnil).1, List.append_nil] at hne
      exact absurd rfl hne

/-- Octets that break off do so within a header or within what it announces. -/
theorem BrokenOff.cases (h : BrokenOff s) :
    s.length < headerLength ∨
      ∃ size body, size < sizeBound ∧ s = header size ++ body ∧ body.length < size :=
  cases_of_next?_eq_none (next?_eq_none_iff.mpr h)

/-- Octets break off within a frame exactly if they begin with none. -/
theorem brokenOff_iff_no_prefix :
    BrokenOff s ↔ ∀ payload frame, encode payload = .ok frame → ¬ frame <+: s := by
  rw [← next?_eq_none_iff]
  constructor
  · rintro hnone payload frame hframe ⟨rest, rfl⟩
    obtain ⟨hsize, rfl⟩ := encode_eq_ok_iff.mp hframe
    rw [next?_octets hsize] at hnone
    exact nomatch hnone
  · intro hfree
    cases hnext : next? s with
    | none => rfl
    | some first =>
      obtain ⟨hsize, hs⟩ := next?_eq_some_iff.mp hnext
      exact absurd ⟨first.2, hs.symm⟩ (hfree first.1 _ (encode_eq_ok hsize))

/-- No octets at all are the beginning of a frame. -/
theorem brokenOff_nil : BrokenOff [] := ⟨[], by decide, List.nil_prefix, by decide⟩

/-! ## Any number of frames -/

/-- The frames of the payloads make up the octets, up to a rest that breaks off within a frame. -/
structure Splits (s : Bytes) (payloads : List Bytes) (rest : Bytes) : Prop where
  sized : ∀ payload ∈ payloads, payload.length < sizeBound
  octets_eq : s = stream payloads ++ rest
  rest_brokenOff : BrokenOff rest

/-- Octets that break off hold no frame, and they are all that is left. -/
theorem splits_of_brokenOff (h : BrokenOff s) : Splits s [] s :=
  ⟨fun _ hmem => (List.not_mem_nil hmem).elim, rfl, h⟩

/-- A frame in front of octets is one payload more. -/
theorem Splits.cons {payloads : List Bytes} (h : Splits s payloads rest)
    (hsize : payload.length < sizeBound) :
    Splits (octets payload ++ s) (payload :: payloads) rest where
  sized := List.forall_mem_cons.mpr ⟨hsize, h.sized⟩
  octets_eq := by rw [h.octets_eq, stream_cons, List.append_assoc]
  rest_brokenOff := h.rest_brokenOff

/-- Octets can be cut into frames. -/
theorem exists_splits (s : Bytes) : ∃ payloads rest, Splits s payloads rest := by
  -- what stands behind a frame is shorter
  induction hlength : s.length using Nat.strongRecOn generalizing s with
  | _ n ih =>
    cases hnext : next? s with
    | none => exact ⟨[], s, splits_of_brokenOff (next?_eq_none_iff.mp hnext)⟩
    | some first =>
      obtain ⟨payload, behind⟩ := first
      obtain ⟨hsize, rfl⟩ := next?_eq_some_iff.mp hnext
      have hshorter : behind.length < n := by
        rw [← hlength, List.length_append, length_octets, headerLength]
        omega
      obtain ⟨payloads, rest, hsplits⟩ := ih _ hshorter behind rfl
      exact ⟨payload :: payloads, rest, hsplits.cons hsize⟩

/-- Octets can be cut into frames in one way only. -/
theorem Splits.unique {payloads payloads' : List Bytes} (h : Splits s payloads rest)
    (h' : Splits s payloads' rest') : payloads = payloads' ∧ rest = rest' := by
  -- by induction on the payloads: both cuttings begin with the same frame, or both with none
  induction payloads generalizing s payloads' with
  | nil =>
    obtain rfl : s = rest := h.octets_eq
    cases payloads' with
    | nil => exact ⟨rfl, h'.octets_eq⟩
    | cons payload payloads' =>
      -- a rest that breaks off has no frame in front
      have hnone := next?_eq_none_iff.mpr h.rest_brokenOff
      rw [h'.octets_eq, stream_cons, List.append_assoc,
        next?_octets (h'.sized payload List.mem_cons_self)] at hnone
      exact nomatch hnone
  | cons payload payloads ih =>
    have hsize := h.sized payload List.mem_cons_self
    have hs : s = octets payload ++ (stream payloads ++ rest) := by
      rw [h.octets_eq, stream_cons, List.append_assoc]
    have hrest : Splits (stream payloads ++ rest) payloads rest :=
      ⟨(List.forall_mem_cons.mp h.sized).2, rfl, h.rest_brokenOff⟩
    cases payloads' with
    | nil =>
      have hnone := next?_eq_none_iff.mpr h'.rest_brokenOff
      rw [← List.nil_append rest', ← stream_nil, ← h'.octets_eq, hs, next?_octets hsize] at hnone
      exact nomatch hnone
    | cons payload' payloads' =>
      have hs' := h'.octets_eq
      rw [hs, stream_cons, List.append_assoc] at hs'
      -- both frames are in front of the same octets, so they are one, and so is what is behind it
      obtain ⟨rfl, hbehind⟩ := octets_append_inj hsize (h'.sized _ List.mem_cons_self) hs'
      rw [hbehind] at hrest
      obtain ⟨rfl, rfl⟩ := ih (hbehind ▸ hrest)
        ⟨(List.forall_mem_cons.mp h'.sized).2, hbehind, h'.rest_brokenOff⟩
      exact ⟨rfl, rfl⟩

end PolicyReplay.Frame
