import PolicyReplay.Proofs.Wire.Stream
import PolicyReplay.Wire.Peer

/-!
# What is put on a link

A link may take what is written in any pieces and may fail at any of them. `recorded` is a link that
behaves as another one and keeps, beside the states of that one, a record of what became of each
writing and each flushing. What a frame puts on a link is read off the record: all of its octets,
or a part of them behind which a writing failed.

## Key results

- `recorded_writeAll`, `recorded_readUpTo`: the loops over the pieces, with the record
- `recorded_writeFrame`: what the frame of a payload puts on a link
- `recorded_readFrame`: nothing is put on a link by reading
-/

namespace PolicyReplay.Link

variable {σ α : Type}

/-! ## The record -/

/-- What became of an operation on the writing side of a link. -/
inductive Output where
  /-- A writing of which the link took this piece. -/
  | took (piece : Bytes)
  | unwritten (cause : SystemError)
  | flushed
  | unflushed (cause : SystemError)
  deriving DecidableEq, Repr

namespace Output

/-- The octets that the link took. -/
def octets : Output → Bytes
  | took piece => piece
  | _ => []

/-- Whether a writing failed. One of which nothing was taken did, since no writing is begun where
there is nothing to write. -/
def failsWrite : Output → Bool
  | took piece => piece.isEmpty
  | unwritten _ => true
  | _ => false

/-- Whether a writing or a flushing failed. -/
def fails : Output → Bool
  | unflushed _ => true
  | output => output.failsWrite

/-- A writing that fails takes nothing. -/
theorem octets_of_failsWrite {output : Output} (h : output.failsWrite = true) :
    output.octets = [] := by
  cases output with
  | took piece => exact List.isEmpty_iff.mp h
  | unwritten cause => rfl
  | flushed => rfl
  | unflushed cause => rfl

/-- A writing that fails is one of the failures. -/
theorem fails_of_failsWrite {output : Output} (h : output.failsWrite = true) :
    output.fails = true := by
  cases output with
  | unflushed cause => rfl
  | took piece => exact h
  | unwritten cause => exact h
  | flushed => exact h

end Output

/-- The octets that a link has taken, by its record. -/
def taken (outputs : List Output) : Bytes := outputs.flatMap Output.octets

@[simp] theorem taken_nil : taken [] = [] := rfl

/-- What a link has taken, by the first operation. -/
@[simp] theorem taken_cons (output : Output) (outputs : List Output) :
    taken (output :: outputs) = output.octets ++ taken outputs := rfl

/-- What a link has taken before and after. -/
@[simp] theorem taken_append (before after : List Output) :
    taken (before ++ after) = taken before ++ taken after := List.flatMap_append

/-- An operation that leaves the record as it is. -/
def beside (f : σ → α × σ) : σ × List Output → α × σ × List Output :=
  fun (s, outputs) => ((f s).1, (f s).2, outputs)

/-- The link with a record of what became of the operations on its writing side. -/
def recorded (link : Link σ) : Link (σ × List Output) where
  write := fun bytes (s, outputs) =>
    match link.write bytes s with
    | (.ok n, s) => (.ok n, s, outputs ++ [.took (bytes.take n.val)])
    | (.error e, s) => (.error e, s, outputs ++ [.unwritten e])
  flush := fun (s, outputs) =>
    match link.flush s with
    | (.ok (), s) => (.ok (), s, outputs ++ [.flushed])
    | (.error e, s) => (.error e, s, outputs ++ [.unflushed e])
  read := fun limit => beside (link.read limit)
  shutdown := beside link.shutdown

section

variable {link : Link σ} {bytes : Bytes} {s s' : σ} {e : SystemError} (outputs : List Output)

/-- A writing that works is recorded with the piece that was taken. -/
theorem recorded_write_ok {n : { n : Nat // n ≤ bytes.length }}
    (h : link.write bytes s = (.ok n, s')) :
    link.recorded.write bytes (s, outputs) =
      (.ok n, s', outputs ++ [.took (bytes.take n.val)]) := by
  simp only [recorded, h]

/-- A writing that fails is recorded with its cause. -/
theorem recorded_write_error (h : link.write bytes s = (.error e, s')) :
    link.recorded.write bytes (s, outputs) = (.error e, s', outputs ++ [.unwritten e]) := by
  simp only [recorded, h]

/-- A flushing that works is recorded. -/
theorem recorded_flush_ok (h : link.flush s = (.ok (), s')) :
    link.recorded.flush (s, outputs) = (.ok (), s', outputs ++ [.flushed]) := by
  simp only [recorded, h]

/-- A flushing that fails is recorded with its cause. -/
theorem recorded_flush_error (h : link.flush s = (.error e, s')) :
    link.recorded.flush (s, outputs) = (.error e, s', outputs ++ [.unflushed e]) := by
  simp only [recorded, h]

theorem recorded_read (limit : Nat) :
    link.recorded.read limit (s, outputs) =
      ((link.read limit s).1, (link.read limit s).2, outputs) := rfl

end

/-! ## Pieces -/

/-- What writing some octets puts on a link: all of them without a failure, or only some of them,
and then a failure. -/
inductive Writing (bytes : Bytes) : Except SystemError Unit → List Output → Prop
  | whole {outputs : List Output} (hworks : ∀ output ∈ outputs, output.fails = false)
    (htaken : taken outputs = bytes) : Writing bytes (.ok ()) outputs
  | cut {outputs : List Output} {last : Output} {left : Bytes} (e : SystemError)
    (hworks : ∀ output ∈ outputs, output.fails = false) (hlast : last.failsWrite = true)
    (htaken : bytes = taken outputs ++ left) (hleft : left ≠ []) :
    Writing bytes (.error e) (outputs ++ [last])

/-- One more piece is taken before the others. -/
theorem Writing.cons {piece bytes : Bytes} {result : Except SystemError Unit}
    {outputs : List Output} (h : Writing bytes result outputs) (hpiece : piece ≠ []) :
    Writing (piece ++ bytes) result (.took piece :: outputs) := by
  -- a piece that is not empty is no failure
  have hfails : (Output.took piece).fails = false := List.isEmpty_eq_false_iff.mpr hpiece
  cases h with
  | whole hworks htaken =>
    exact .whole (List.forall_mem_cons.mpr ⟨hfails, hworks⟩) (congrArg (piece ++ ·) htaken)
  | cut e hworks hlast htaken hleft =>
    refine .cut e (List.forall_mem_cons.mpr ⟨hfails, hworks⟩) hlast ?_ hleft
    rw [htaken, taken_cons, Output.octets, List.append_assoc]

/-- Writing octets with the record. -/
theorem recorded_writeAll (link : Link σ) (bytes : Bytes) (s : σ) (outputs : List Output) :
    ∃ new, link.recorded.writeAll bytes (s, outputs) =
        ((link.writeAll bytes s).1, (link.writeAll bytes s).2, outputs ++ new) ∧
      Writing bytes (link.writeAll bytes s).1 new := by
  fun_induction link.writeAll bytes s generalizing outputs with
  -- the record follows the cases of the writing: nothing is left to write
  | case1 s =>
    rw [writeAll, dif_pos rfl]
    exact ⟨[], by rw [List.append_nil], .whole (by simp) rfl⟩
  -- the link refuses
  | case2 bytes s hne e s' hwrite =>
    rw [writeAll, dif_neg hne]
    simp only [recorded_write_error outputs hwrite]
    exact ⟨_, rfl, .cut e (List.forall_mem_nil _) rfl rfl hne⟩
  -- the link takes nothing, which is a failure as well
  | case3 bytes s hne hle s' hwrite =>
    rw [writeAll, dif_neg hne]
    simp only [recorded_write_ok outputs hwrite]
    exact ⟨_, rfl, .cut _ (List.forall_mem_nil _) rfl rfl hne⟩
  | case4 bytes s hne n hle s' hwrite ih =>
    -- the record goes on behind the piece that was taken
    obtain ⟨new, hrest, hwriting⟩ := ih (outputs ++ [.took (bytes.take (n + 1))])
    have hpiece : bytes.take (n + 1) ≠ [] := by simp [hne]
    refine ⟨.took (bytes.take (n + 1)) :: new, ?_, ?_⟩
    · rw [writeAll, dif_neg hne]
      simp only [recorded_write_ok outputs hwrite]
      exact hrest.trans (by rw [List.append_assoc]; rfl)
    · have hall := hwriting.cons hpiece
      rwa [List.take_append_drop] at hall

/-- Reading leaves the record as it is. -/
theorem recorded_readUpTo (link : Link σ) (limit : Nat) (s : σ) (outputs : List Output) :
    link.recorded.readUpTo limit (s, outputs) =
      ((link.readUpTo limit s).1, (link.readUpTo limit s).2, outputs) := by
  -- reading does the same with the record as without it, in each of its cases
  fun_induction link.readUpTo limit s with
  | case1 s => rw [readUpTo, dif_pos rfl]
  | case2 limit s hpos e s' hread =>
    rw [readUpTo, dif_neg hpos]
    simp only [recorded_read, hread]
  | case3 limit s hpos hle s' hread =>
    rw [readUpTo, dif_neg hpos]
    simp only [recorded_read, hread]
  | case4 limit s hpos b bytes hle s' hread answer s'' hrest ih =>
    rw [hrest] at ih
    rw [readUpTo, dif_neg hpos]
    simp only [recorded_read, hread, ih]

/-! ## Frames -/

/-- What sending a payload puts on a link: nothing of a payload that is too large, the whole frame
of one that goes out, and else a part of the frame behind which a writing failed, or the whole
frame, which could not be flushed. -/
inductive Sending (payload : Bytes) : Except Wire.Error Unit → List Output → Prop
  | tooLarge (hsize : Frame.sizeBound ≤ payload.length) :
    Sending payload (.error (.frameTooLarge payload.length)) []
  | whole {outputs : List Output} (hsize : payload.length < Frame.sizeBound)
    (hworks : ∀ output ∈ outputs, output.fails = false)
    (htaken : taken outputs = Frame.octets payload) : Sending payload (.ok ()) outputs
  | cut {outputs : List Output} {last : Output} {left : Bytes} (e : SystemError)
    (hsize : payload.length < Frame.sizeBound)
    (hworks : ∀ output ∈ outputs, output.fails = false) (hlast : last.failsWrite = true)
    (htaken : Frame.octets payload = taken outputs ++ left) (hleft : left ≠ []) :
    Sending payload (.error (.io e)) (outputs ++ [last])
  | unflushed {outputs : List Output} (e : SystemError)
    (hsize : payload.length < Frame.sizeBound)
    (hworks : ∀ output ∈ outputs, output.fails = false)
    (htaken : taken outputs = Frame.octets payload) :
    Sending payload (.error (.io e)) (outputs ++ [.unflushed e])

/-- Sending the frame of a payload with the record. -/
theorem recorded_writeFrame (link : Link σ) (payload : Bytes) (s : σ) (outputs : List Output) :
    ∃ new, link.recorded.writeFrame payload (s, outputs) =
        ((link.writeFrame payload s).1, (link.writeFrame payload s).2, outputs ++ new) ∧
      Sending payload (link.writeFrame payload s).1 new := by
  by_cases hsize : payload.length < Frame.sizeBound
  · obtain ⟨new, hwrite, hwriting⟩ :=
      link.recorded_writeAll (Frame.octets payload) s outputs
    simp only [writeFrame, Frame.encode_eq_ok hsize, hwrite]
    rcases hresult : link.writeAll (Frame.octets payload) s with ⟨e | ⟨⟩, s₁⟩
    -- the frame does not go out as a whole, so it is not flushed
    · rw [hresult] at hwriting
      cases hwriting with
      | cut _ hworks hlast htaken hleft =>
        exact ⟨_, rfl, .cut e hsize hworks hlast htaken hleft⟩
    · rw [hresult] at hwriting
      cases hwriting with
      | whole hworks htaken =>
        -- the frame is there, and what is left is to flush it
        rcases hflush : link.flush s₁ with ⟨e | ⟨⟩, s₂⟩
        · simp only [recorded_flush_error (outputs ++ new) hflush, hflush]
          exact ⟨_, by rw [List.append_assoc], .unflushed e hsize hworks htaken⟩
        · simp only [recorded_flush_ok (outputs ++ new) hflush, hflush]
          refine ⟨new ++ [.flushed], by rw [List.append_assoc], .whole hsize ?_ ?_⟩
          · exact List.forall_mem_append.mpr ⟨hworks, List.forall_mem_singleton.mpr rfl⟩
          · rw [taken_append, htaken]
            exact List.append_nil _
  -- a payload that is too large does not touch the link
  · have hsize : Frame.sizeBound ≤ payload.length := Nat.le_of_not_lt hsize
    rw [writeFrame_of_too_large hsize, writeFrame_of_too_large hsize]
    exact ⟨[], by rw [List.append_nil], .tooLarge hsize⟩

/-- Reading a frame leaves the record as it is. -/
theorem recorded_readFrame (link : Link σ) (s : σ) (outputs : List Output) :
    link.recorded.readFrame (s, outputs) =
      ((link.readFrame s).1, (link.readFrame s).2, outputs) := by
  -- a frame is read in two parts, each of which leaves the record as it is
  simp only [readFrame, recorded_readUpTo]
  rcases link.readUpTo Frame.headerLength s with ⟨⟨header, _ | e⟩, s₁⟩
  · simp only [recorded_readUpTo]
    split
    · rfl
    · rcases link.readUpTo (Frame.announced header) s₁ with ⟨⟨payload, _ | e⟩, s₂⟩
      · simp only
        split
        · rfl
        · rfl
      · rfl
  · simp only
    split
    · rfl
    · rfl

end PolicyReplay.Link
