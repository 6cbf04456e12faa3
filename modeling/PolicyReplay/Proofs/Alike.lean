import PolicyReplay.Dialogue

/-!
# Dialogues and the clock

A dialogue may look at the clock, and what it does after that may depend on the time it sees. Two
dialogues are alike if they do the same whatever clocks they look at, as long as these do not go
back. Only what is logged may differ, and the results, as far as a relation lets them. A clock that
does not go back is one of a steady peer.

## Key results

- `Alike.bind`: one dialogue after the other, each like another
- `Alike.mono`: clocks that have shown more restrict less
-/

namespace PolicyReplay

variable {σ α β : Type}

/-- Two ways to end that are the same, as far as a relation lets results differ. -/
inductive Fate.Alike (R : α → α → Prop) : Fate α → Fate α → Prop
  | returned {value value' : α} (h : R value value') : Alike R (.returned value) (.returned value')
  | crashed (message : String) : Alike R (.crashed message) (.crashed message)

/-- Two dialogues that do the same on clocks that do not go back. The one clock has shown so many
nanoseconds so far, the other so many. -/
inductive Dialogue.Alike (R : α → α → Prop) : Nat → Nat → Dialogue α → Dialogue α → Prop
  | done {shown shown' : Nat} {value value' : α} (h : R value value') :
    Alike R shown shown' (.done value) (.done value')
  | crash {shown shown' : Nat} (message : String) :
    Alike R shown shown' (.crash message) (.crash message)
  | connect {shown shown' : Nat} {next next' : Except Wire.Error Unit → Dialogue α}
    (h : ∀ answer, Alike R shown shown' (next answer) (next' answer)) :
    Alike R shown shown' (.connect next) (.connect next')
  | send {shown shown' : Nat} (payload : Bytes) {next next' : Except Wire.Error Unit → Dialogue α}
    (h : ∀ answer, Alike R shown shown' (next answer) (next' answer)) :
    Alike R shown shown' (.send payload next) (.send payload next')
  | receive {shown shown' : Nat} {next next' : Except Wire.Error (Option Bytes) → Dialogue α}
    (h : ∀ answer, Alike R shown shown' (next answer) (next' answer)) :
    Alike R shown shown' (.receive next) (.receive next')
  | close {shown shown' : Nat} {next next' : Except Wire.Error Unit → Dialogue α}
    (h : ∀ answer, Alike R shown shown' (next answer) (next' answer)) :
    Alike R shown shown' (.close next) (.close next')
  | clock {shown shown' : Nat} {next next' : Duration → Dialogue α}
    (h : ∀ time time' : Duration, shown ≤ time.nanos → shown' ≤ time'.nanos →
      Alike R time.nanos time'.nanos (next time) (next' time')) :
    Alike R shown shown' (.clock next) (.clock next')
  | log {shown shown' : Nat} (entry entry' : Log.Entry) {next next' : Dialogue α}
    (h : Alike R shown shown' next next') :
    Alike R shown shown' (.log entry next) (.log entry' next')
  | count {shown shown' : Nat} (tally : Tally) {next next' : Dialogue α}
    (h : Alike R shown shown' next next') :
    Alike R shown shown' (.count tally next) (.count tally next')

namespace Dialogue.Alike

/-- Clocks that have shown more restrict less what they can show next. -/
theorem mono {R : α → α → Prop} {shown shown' later later' : Nat} {d d' : Dialogue α}
    (h : Alike R shown shown' d d') (hle : shown ≤ later) (hle' : shown' ≤ later') :
    Alike R later later' d d' := by
  -- by induction on the dialogues, where only a look at the clock asks anything of the times
  induction h generalizing later later' with
  | done hR => exact .done hR
  | crash message => exact .crash message
  | connect _ ih => exact .connect fun answer => ih answer hle hle'
  | send payload _ ih => exact .send payload fun answer => ih answer hle hle'
  | receive _ ih => exact .receive fun answer => ih answer hle hle'
  | close _ ih => exact .close fun answer => ih answer hle hle'
  -- what the clock shows from here on is at least what it has shown
  | clock hnext _ =>
    exact .clock fun time time' htime htime' =>
      hnext time time' (Nat.le_trans hle htime) (Nat.le_trans hle' htime')
  | log entry entry' _ ih => exact .log entry entry' (ih hle hle')
  | count tally _ ih => exact .count tally (ih hle hle')

/-- One dialogue after the other, each like another. When the second ones begin, the clocks may have
moved on. -/
theorem bind {S : α → α → Prop} {R : β → β → Prop} {shown shown' : Nat} {d d' : Dialogue α}
    {f f' : α → Dialogue β} (h : Alike S shown shown' d d')
    (hf : ∀ later later' value value', shown ≤ later → shown' ≤ later' → S value value' →
      Alike R later later' (f value) (f' value')) :
    Alike R shown shown' (d >>= f) (d' >>= f') := by
  -- the second dialogues stand where the first ones are done
  show Alike R shown shown' (d.bind f) (d'.bind f')
  induction h with
  | done hS => exact hf _ _ _ _ (Nat.le_refl _) (Nat.le_refl _) hS
  | crash message => exact .crash message
  | connect _ ih => exact .connect fun answer => ih answer hf
  | send payload _ ih => exact .send payload fun answer => ih answer hf
  | receive _ ih => exact .receive fun answer => ih answer hf
  | close _ ih => exact .close fun answer => ih answer hf
  -- a look at the clock moves the times on, and what follows is asked for later ones only
  | clock _ ih =>
    refine .clock fun time time' htime htime' => ih time time' htime htime' ?_
    intro later later' value value' hlater hlater' hS
    exact hf later later' value value' (Nat.le_trans htime hlater) (Nat.le_trans htime' hlater') hS
  | log entry entry' _ ih => exact .log entry entry' (ih hf)
  | count tally _ ih => exact .count tally (ih hf)

end Dialogue.Alike

/-! ## Peers with a clock that does not go back -/

/-- The clock of a peer does not go back. `passed` says which times it may have shown before it is
in a state, and each thing that is done keeps it that way. -/
structure Peer.Steady (peer : Peer σ) (passed : σ → Nat → Prop) : Prop where
  connect : ∀ s shown, passed s shown → passed (peer.connect s).2 shown
  send : ∀ payload s shown, passed s shown → passed (peer.send payload s).2 shown
  receive : ∀ s shown, passed s shown → passed (peer.receive s).2 shown
  close : ∀ s shown, passed s shown → passed (peer.close s).2 shown
  clock : ∀ s shown, passed s shown → shown ≤ (peer.clock s).1.nanos ∧
    passed (peer.clock s).2 (peer.clock s).1.nanos

/-- A clock that stands still does not go back. -/
theorem Peer.steady_of_still {peer : Peer σ} (h : ∀ s, (peer.clock s).1 = .zero) :
    peer.Steady fun _ shown => shown = 0 where
  connect := fun _ _ hshown => hshown
  send := fun _ _ _ hshown => hshown
  receive := fun _ _ hshown => hshown
  close := fun _ _ hshown => hshown
  clock := by
    intro s shown hshown
    rw [h, hshown]
    exact ⟨Nat.le_refl 0, rfl⟩

end PolicyReplay
