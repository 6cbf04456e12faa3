import PolicyReplay.Proofs.Session.Course

/-!
# Sessions that end their connections

A session that opens a connection ends it once, whatever goes wrong on it, with one exception: when
everything has been answered and the farewell does not go out, the connection is left as it is.

## Key results

- `Course.closings_cases`: how often a course ends its connection
- `session_closes_iff`: a session that returns ends an open connection unless it is stranded
-/

namespace PolicyReplay.Run

open Transcript

variable {σ : Type} {setup : Option Command} {commands : List Command}

/-- Everything that a session asks for was answered, and then the farewell did not go out. -/
def Stranded (setup : Option Command) (commands : List Command) (steps : List Step) : Prop :=
  ∃ before e, steps = before ++ [.sent Frame.farewell (.error e)] ∧
    delivered before = requests setup commands ∧
    (frames before).length = (requests setup commands).length

/-- A transcript that ends with the end of the connection is not stranded. -/
theorem not_stranded_of_closed (steps : List Step) (closing : Except Wire.Error Unit) :
    ¬ Stranded setup commands (steps ++ [.closed closing]) := by
  rintro ⟨before, e, hsteps, -, -⟩
  -- both transcripts end with a single step, and these would have to be the same
  have hlast := List.append_inj_right' hsteps rfl
  exact nomatch List.head_eq_of_cons_eq hlast

/-- How often a course ends its connection: once if the connection was open, the session returned,
and it was not stranded, and else not at all. -/
theorem Course.closings_cases {steps : List Step} {fate : Fate (Except Error Latency)}
    (h : Course setup commands steps fate) :
    (closings steps = 1 ∧ .connected .opened ∈ steps ∧ (∃ result, fate = .returned result) ∧
        ¬ Stranded setup commands steps) ∨
      closings steps = 0 ∧ (.connected .opened ∉ steps ∨ (∀ result, fate ≠ .returned result) ∨
        Stranded setup commands steps) := by
  -- by the way that the session took; only the stranded one leaves an open connection
  cases h with
  | refused e => exact .inr ⟨rfl, .inl (by simp)⟩
  | aborted message => exact .inr ⟨rfl, .inl (by simp)⟩
  | broken rounds payload left last e closing haccepted hpayloads hlast =>
    refine .inl ⟨?_, by simp, ⟨_, rfl⟩, not_stranded_of_closed _ _⟩
    simp [closings_eq_zero hlast.midway]
  | rejected command answer closing hsetup hanswer =>
    exact .inl ⟨rfl, by simp, ⟨_, rfl⟩, not_stranded_of_closed _ _⟩
  | overflowed rounds left haccepted hpayloads =>
    -- a session that crashed returned nothing
    refine .inr ⟨?_, .inr (.inl fun result hfate => nomatch hfate)⟩
    simp
  | stranded rounds e haccepted hpayloads =>
    -- all that stands before the farewell was answered
    refine .inr ⟨?_, .inr (.inr ⟨.connected .opened :: roundSteps rounds, e, rfl, ?_, ?_⟩)⟩
    · simp
    · simpa using hpayloads
    · rw [← hpayloads]
      simp
  | parted rounds latency closing haccepted hpayloads hcount =>
    refine .inl ⟨?_, by simp, ⟨_, rfl⟩, ?_⟩
    · simp
    -- the last step is the end of the connection, whatever stands between the farewell and it
    · have hnot : ¬ Stranded setup commands ((.connected .opened :: roundSteps rounds ++
          [.sent Frame.farewell (.ok ()), .counted (.frameSent Frame.farewell.length)]) ++
          [.closed closing]) := not_stranded_of_closed _ _
      rwa [List.append_assoc] at hnot

/-- A session ends its connection at most once, and it does so exactly if the connection was opened,
the session returns, and it is not stranded. -/
theorem session_closes_iff (peer : Peer σ) (s : σ) (endpoint id : String)
    (setup : Option Command) (commands : List Command) (least : Severity) :
    let account := (((session endpoint id setup commands).conduct peer s).run least).2
    closings account.steps ≤ 1 ∧
      (closings account.steps = 1 ↔
        .connected .opened ∈ account.steps ∧ (∃ result, account.fate = .returned result) ∧
          ¬ Stranded setup commands account.steps) := by
  intro account
  have haccount : account = (session endpoint id setup commands).account peer s :=
    Dialogue.run_conduct_snd peer _ s least
  have hcourse := session_course peer endpoint id setup commands s
  rw [← haccount] at hcourse
  -- the session ended its connection, or it had one of three reasons not to
  rcases hcourse.closings_cases with ⟨hone, hopened, hreturned, hleft⟩ | ⟨hzero, hnot⟩
  · exact ⟨by omega, fun _ => ⟨hopened, hreturned, hleft⟩, fun _ => hone⟩
  · refine ⟨by omega, fun hone => by omega, ?_⟩
    rintro ⟨hopened, ⟨result, hreturned⟩, hleft⟩
    rcases hnot with hclosed | hcrashed | hstranded
    · exact absurd hopened hclosed
    · exact absurd hreturned (hcrashed result)
    · exact absurd hstranded hleft

/-- A peer that answers everything and then does not take the farewell leaves the session stranded
on a connection that was opened and is never ended. -/
theorem stranded_without_closing :
    let peer : Peer Unit := {
      connect := fun s => (.opened, s)
      send := fun payload s =>
        (if payload = Frame.farewell then .error (.io .writeZero) else .ok (), s)
      receive := fun s => (.ok (some Frame.acknowledgement), s)
      close := fun s => (.ok (), s)
      clock := fun s => (.zero, s) }
    let account :=
      (((session "mock://controller" "0" none [⟨"get a"⟩]).conduct peer ()).run .info).2
    Stranded none [⟨"get a"⟩] account.steps ∧ .connected .opened ∈ account.steps ∧
      account.fate = .returned (.error (.wire (.io .writeZero))) ∧ closings account.steps = 0 := by
  refine ⟨⟨[.connected .opened, .sent (Text.encode "get a".toList) (.ok ()),
    .counted (.frameSent 5), .received (.ok (some Frame.acknowledgement)),
    .counted .frameReceived], .io .writeZero, ?_, ?_, ?_⟩, ?_, ?_, ?_⟩
  · rfl
  · rfl
  · rfl
  · exact List.mem_cons_self
  · rfl
  · rfl

end PolicyReplay.Run
