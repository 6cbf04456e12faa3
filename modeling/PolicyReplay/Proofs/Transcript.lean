import PolicyReplay.Dialogue

/-!
# Reading transcripts

The steps of an account are a transcript of one connection, or of several of them one after the
other. This file defines what can be read off a transcript: the payloads that were to go out, those
that went out, and the frames that came in. A statement about a step "when it was done" is a
statement about the steps before it, so the temporal properties have the form `Throughout`.

## Key results

- `throughout_cons`, `throughout_append`: a temporal property of the parts of a transcript
-/

namespace PolicyReplay

namespace Step

/-- The payload that was to go out in a step. -/
@[simp] def attempted? : Step → Option Bytes
  | sent payload _ => some payload
  | _ => none

/-- The payload that went out in a step. -/
@[simp] def delivered? : Step → Option Bytes
  | sent payload (.ok ()) => some payload
  | _ => none

/-- The frame that came in with a step. -/
@[simp] def frame? : Step → Option Bytes
  | received (.ok (some frame)) => some frame
  | _ => none

/-- What is counted in a step. -/
@[simp] def tally? : Step → Option Tally
  | counted tally => some tally
  | _ => none

/-- Whether a step is an attempt to send or to receive. -/
@[simp] def isTransfer : Step → Bool
  | sent _ _ | received _ => true
  | _ => false

/-- Whether a step is an attempt to open a connection. -/
@[simp] def isConnect : Step → Bool
  | connected _ => true
  | _ => false

/-- Whether a step ends a connection. -/
@[simp] def isClose : Step → Bool
  | closed _ => true
  | _ => false

/-- Whether a step leaves a connection as it is, neither opening nor ending it. -/
@[simp] def isMidway : Step → Bool
  | connected _ | closed _ => false
  | _ => true

end Step

namespace Transcript

/-- The payloads that were to go out, in order. -/
def attempted (steps : List Step) : List Bytes := steps.filterMap Step.attempted?

/-- The payloads that went out, in order. -/
def delivered (steps : List Step) : List Bytes := steps.filterMap Step.delivered?

/-- The frames that came in, in order. -/
def frames (steps : List Step) : List Bytes := steps.filterMap Step.frame?

/-- What was counted, in order. -/
def tallies (steps : List Step) : List Tally := steps.filterMap Step.tally?

/-- The attempts to send and to receive, in order. -/
def transfers (steps : List Step) : List Step := steps.filter Step.isTransfer

@[simp] theorem attempted_nil : attempted [] = [] := rfl

@[simp] theorem attempted_cons (step : Step) (steps : List Step) :
    attempted (step :: steps) = step.attempted?.toList ++ attempted steps := by
  rw [attempted, List.filterMap_cons]
  cases step.attempted? <;> rfl

/-- What was to go out in a stretch of steps and then in the rest. -/
@[simp] theorem attempted_append (first rest : List Step) :
    attempted (first ++ rest) = attempted first ++ attempted rest :=
  List.filterMap_append

@[simp] theorem delivered_nil : delivered [] = [] := rfl

@[simp] theorem delivered_cons (step : Step) (steps : List Step) :
    delivered (step :: steps) = step.delivered?.toList ++ delivered steps := by
  rw [delivered, List.filterMap_cons]
  cases step.delivered? <;> rfl

/-- What went out in a stretch of steps and then in the rest. -/
@[simp] theorem delivered_append (first rest : List Step) :
    delivered (first ++ rest) = delivered first ++ delivered rest :=
  List.filterMap_append

@[simp] theorem frames_nil : frames [] = [] := rfl

/-- A step brings in one frame at most. -/
@[simp] theorem frames_cons (step : Step) (steps : List Step) :
    frames (step :: steps) = step.frame?.toList ++ frames steps := by
  rw [frames, List.filterMap_cons]
  cases step.frame? <;> rfl

/-- What came in during a stretch of steps and then in the rest. -/
@[simp] theorem frames_append (first rest : List Step) :
    frames (first ++ rest) = frames first ++ frames rest :=
  List.filterMap_append

@[simp] theorem transfers_nil : transfers [] = [] := rfl

/-- A step is kept among the transfers or left out. -/
@[simp] theorem transfers_cons (step : Step) (steps : List Step) :
    transfers (step :: steps) =
      if step.isTransfer then step :: transfers steps else transfers steps :=
  List.filter_cons

/-- The transfers of a stretch of steps and then of the rest. -/
@[simp] theorem transfers_append (first rest : List Step) :
    transfers (first ++ rest) = transfers first ++ transfers rest :=
  List.filter_append ..

@[simp] theorem tallies_nil : tallies [] = [] := rfl

@[simp] theorem tallies_cons (step : Step) (steps : List Step) :
    tallies (step :: steps) = step.tally?.toList ++ tallies steps := by
  rw [tallies, List.filterMap_cons]
  cases step.tally? <;> rfl

/-- What was counted in a stretch of steps and then in the rest. -/
@[simp] theorem tallies_append (first rest : List Step) :
    tallies (first ++ rest) = tallies first ++ tallies rest :=
  List.filterMap_append

/-- Where nothing is done but counting, all of it is counted. -/
@[simp] theorem tallies_map_counted (counted : List Tally) :
    tallies (counted.map .counted) = counted := by
  rw [tallies, List.filterMap_map]
  exact List.filterMap_some

/-- Where nothing is done but counting, nothing goes out and nothing comes in. -/
@[simp] theorem delivered_map_counted (counted : List Tally) :
    delivered (counted.map .counted) = [] := by
  rw [delivered, List.filterMap_map]
  exact List.filterMap_eq_nil_iff.2 fun _ _ => rfl

/-- Where nothing is done but counting, nothing comes in. -/
@[simp] theorem frames_map_counted (counted : List Tally) :
    frames (counted.map .counted) = [] := by
  rw [frames, List.filterMap_map]
  exact List.filterMap_eq_nil_iff.2 fun _ _ => rfl

/-- Where nothing is done but counting, nothing is tried. -/
@[simp] theorem transfers_map_counted (counted : List Tally) :
    transfers (counted.map .counted) = [] := by
  refine List.filter_eq_nil_iff.2 fun step hstep => ?_
  -- a step that counts is no transfer
  obtain ⟨tally, -, rfl⟩ := List.mem_map.1 hstep
  exact Bool.false_ne_true

/-- How often it was tried to open a connection. -/
def connects (steps : List Step) : Nat := steps.countP Step.isConnect

@[simp] theorem connects_nil : connects [] = 0 := rfl

@[simp] theorem connects_cons (step : Step) (steps : List Step) :
    connects (step :: steps) = connects steps + if step.isConnect then 1 else 0 :=
  List.countP_cons

/-- The openings of a stretch of steps and of the rest. -/
@[simp] theorem connects_append (first rest : List Step) :
    connects (first ++ rest) = connects first + connects rest :=
  List.countP_append

/-- How often a connection was ended. -/
def closings (steps : List Step) : Nat := steps.countP Step.isClose

@[simp] theorem closings_nil : closings [] = 0 := rfl

@[simp] theorem closings_cons (step : Step) (steps : List Step) :
    closings (step :: steps) = closings steps + if step.isClose then 1 else 0 :=
  List.countP_cons

/-- The ends of a stretch of steps and of the rest. -/
@[simp] theorem closings_append (first rest : List Step) :
    closings (first ++ rest) = closings first + closings rest :=
  List.countP_append

/-- Between its opening and its end, a connection is opened and ended no more. -/
theorem connects_eq_zero {steps : List Step} (h : ∀ step ∈ steps, step.isMidway = true) :
    connects steps = 0 := by
  refine List.countP_eq_zero.2 fun step hstep => ?_
  -- a step in between is neither an opening nor an end, whichever of the others it is
  have hmidway := h step hstep
  cases step <;> simp_all

/-- A connection is not ended before its end. -/
theorem closings_eq_zero {steps : List Step} (h : ∀ step ∈ steps, step.isMidway = true) :
    closings steps = 0 := by
  refine List.countP_eq_zero.2 fun step hstep => ?_
  have hmidway := h step hstep
  cases step <;> simp_all

/-- Nothing is sent or received, or tried to be. -/
def Quiet (steps : List Step) : Prop := ∀ step ∈ steps, step.isTransfer = false

/-- Every step has a property that may also concern the steps before and after it. -/
def Throughout (P : List Step → Step → List Step → Prop) (steps : List Step) : Prop :=
  ∀ before step after, steps = before ++ step :: after → P before step after

variable {P Q : List Step → Step → List Step → Prop}

@[simp] theorem throughout_nil : Throughout P [] := by
  intro before step after h
  cases before <;> simp at h

/-- A property throughout, by the first step: the rest has the first step behind it. -/
theorem throughout_cons {first : Step} {rest : List Step} :
    Throughout P (first :: rest) ↔
      P [] first rest ∧ Throughout (fun before => P (first :: before)) rest := by
  constructor
  · intro h
    -- in the rest, the first step is one of those before
    exact ⟨h [] first rest rfl, fun before step after hrest =>
      h (first :: before) step after (by rw [hrest, List.cons_append])⟩
  · rintro ⟨hfirst, hrest⟩ before step after h
    cases before with
    | nil =>
      obtain ⟨rfl, rfl⟩ := List.cons.inj h
      exact hfirst
    | cons b before =>
      obtain ⟨rfl, hsplit⟩ := List.cons.inj h
      exact hrest before step after hsplit

/-- A property throughout two stretches: the first has the rest still ahead, and the rest has the
first behind it. -/
theorem throughout_append {first rest : List Step} :
    Throughout P (first ++ rest) ↔
      Throughout (fun before step after => P before step (after ++ rest)) first ∧
        Throughout (fun before => P (first ++ before)) rest := by
  -- induction on the first stretch; the property moves along with what lies behind it
  induction first generalizing P with
  | nil => simp
  | cons step first ih =>
    rw [List.cons_append, throughout_cons, throughout_cons, ih, and_assoc]
    rfl

/-- What holds throughout in a weaker form holds throughout. -/
theorem Throughout.mono {steps : List Step} (h : Throughout P steps)
    (himp : ∀ before step after, P before step after → Q before step after) :
    Throughout Q steps :=
  fun before step after hsplit => himp _ _ _ (h before step after hsplit)

end Transcript
end PolicyReplay
