import PolicyReplay.Proofs.Session.Lockstep
import PolicyReplay.Proofs.Wire.Reading
import PolicyReplay.Proofs.Wire.Recording

/-!
# The octets of a session

A session that is held over a link puts the frames of its payloads on it, one after the other. The
link may take them in any pieces and fail at any octet; since nothing is sent after a payload that
did not go out, a frame that was cut is the last thing on the link. So whoever reads frames from the
octets gets the first payloads of the session, each as it was sent, and then the end of the stream.

## Key results

- `account_recorded`: a dialogue over a link with a record goes as it does without one
- `Puts.carries`, `Puts.of_quiet`: what steps put on a link
- `session_streamed`: the octets that a session puts on a link
-/

namespace PolicyReplay

open Transcript
open Link (Output taken beside)

variable {σ α : Type}

/-- The link with a record as a frame connection. -/
def Link.recordedPeer (link : Link σ) (connect : σ → Opening × σ) (clock : σ → Duration × σ) :
    Peer (σ × List Output) :=
  link.recorded.peer (beside connect) (beside clock)

/-! ## Steps -/

/-- What the steps of a transcript put on a link: what each sending puts there, in order. -/
inductive Puts : List Step → List Output → Prop
  | nil : Puts [] []
  | sent {payload : Bytes} {answer : Except Wire.Error Unit} {first rest : List Output}
    {steps : List Step} (hsending : Link.Sending payload answer first) (hrest : Puts steps rest) :
    Puts (.sent payload answer :: steps) (first ++ rest)
  | other {step : Step} {outputs : List Output} {steps : List Step}
    (hstep : step.attempted? = none) (hrest : Puts steps outputs) : Puts (step :: steps) outputs

/-- An account beside a record that had `outputs` in it before. -/
def Recorded (outputs : List Output) (account : Account σ α)
    (beside : Account (σ × List Output) α) : Prop :=
  ∃ new, beside = ⟨account.steps, (account.state, outputs ++ new), account.fate⟩ ∧
    Puts account.steps new

/-- Where nothing is done, the record stays as it is. -/
theorem Recorded.idle (outputs : List Output) (s : σ) (fate : Fate α) :
    Recorded outputs ⟨[], s, fate⟩ ⟨[], (s, outputs), fate⟩ :=
  ⟨[], by rw [List.append_nil], .nil⟩

/-- A step that sends nothing leaves the record as it is. -/
theorem Recorded.after {outputs : List Output} {account : Account σ α}
    {beside : Account (σ × List Output) α} {step : Step} (h : Recorded outputs account beside)
    (hstep : step.attempted? = none) :
    Recorded outputs (account.after step) (beside.after step) := by
  obtain ⟨new, rfl, hputs⟩ := h
  exact ⟨new, rfl, .other hstep hputs⟩

/-- A dialogue over a link with a record is the dialogue over the link, and the record gets what its
steps put on the link. -/
theorem account_recorded (link : Link σ) (connect : σ → Opening × σ) (clock : σ → Duration × σ)
    (d : Dialogue α) (s : σ) (outputs : List Output) :
    Recorded outputs (d.account (link.peer connect clock) s)
      (d.account (link.recordedPeer connect clock) (s, outputs)) := by
  -- only a sending writes; for every other step the record goes to the next one as it is
  induction d generalizing s outputs with
  | done value => exact .idle outputs s (.returned value)
  | crash message => exact .idle outputs s (.crashed message)
  | connect next ih =>
    have hbeside : (link.recordedPeer connect clock).connect (s, outputs) =
        ((connect s).1, (connect s).2, outputs) := rfl
    have hlink : (link.peer connect clock).connect s = connect s := rfl
    rw [Dialogue.account_connect, Dialogue.account_connect, hbeside, hlink]
    rcases connect s with ⟨_ | e | message, s'⟩
    · exact (ih (.ok ()) s' outputs).after rfl
    · exact (ih (.error e) s' outputs).after rfl
    · exact (Recorded.idle outputs s' (.crashed message)).after rfl
  | send payload next ih =>
    -- what one sending puts on the link comes before what the later steps put there
    obtain ⟨first, hsend, hsending⟩ := link.recorded_writeFrame payload s outputs
    have hbeside : (link.recordedPeer connect clock).send payload (s, outputs) =
        ((link.writeFrame payload s).1, (link.writeFrame payload s).2, outputs ++ first) := hsend
    obtain ⟨rest, hrest, hputs⟩ :=
      ih (link.writeFrame payload s).1 (link.writeFrame payload s).2 (outputs ++ first)
    rw [Dialogue.account_send, Dialogue.account_send, hbeside, hrest, List.append_assoc]
    exact ⟨first ++ rest, rfl, .sent hsending hputs⟩
  | receive next ih =>
    have hbeside : (link.recordedPeer connect clock).receive (s, outputs) =
        ((link.readFrame s).1, (link.readFrame s).2, outputs) := link.recorded_readFrame s outputs
    rw [Dialogue.account_receive, Dialogue.account_receive, hbeside]
    exact (ih _ _ outputs).after rfl
  | close next ih =>
    rw [Dialogue.account_close, Dialogue.account_close]
    exact (ih _ _ outputs).after rfl
  | clock next ih =>
    rw [Dialogue.account_clock, Dialogue.account_clock]
    exact ih _ _ outputs
  | log entry next ih =>
    rw [Dialogue.account_log, Dialogue.account_log]
    exact ih s outputs
  | count tally next ih =>
    rw [Dialogue.account_count, Dialogue.account_count]
    exact (ih s outputs).after rfl

/-! ## Steps that go right and steps that do not -/

/-- The record of a link that took the frames of payloads and nothing else. -/
structure Carries (outputs : List Output) (payloads : List Bytes) : Prop where
  works : ∀ output ∈ outputs, output.fails = false
  taken_eq : taken outputs = Frame.stream payloads
  sized : ∀ payload ∈ payloads, payload.length < Frame.sizeBound

/-- Where all that was sent went out, the link took the frames of it. -/
theorem Puts.carries {steps : List Step} {outputs : List Output} (h : Puts steps outputs)
    (hsent : ∀ payload e, .sent payload (.error e) ∉ steps) :
    Carries outputs (delivered steps) := by
  -- by induction on the steps, of which each sending brings its frame
  induction h with
  | nil => exact ⟨List.forall_mem_nil _, rfl, List.forall_mem_nil _⟩
  | @sent payload answer first rest steps hsending hrest ih =>
    have hcarries := ih fun payload e hmem => hsent payload e (List.mem_cons_of_mem _ hmem)
    -- of the ways in which a sending can go, one is the way without an error
    cases hsending with
    | whole hsize hworks htaken =>
      refine ⟨List.forall_mem_append.mpr ⟨hworks, hcarries.works⟩, ?_,
        List.forall_mem_cons.mpr ⟨hsize, hcarries.sized⟩⟩
      rw [Link.taken_append, htaken, hcarries.taken_eq]
      rfl
    | tooLarge hsize => exact absurd List.mem_cons_self (hsent _ _)
    | cut e hsize hworks hlast htaken hleft => exact absurd List.mem_cons_self (hsent _ _)
    | unflushed e hsize hworks htaken => exact absurd List.mem_cons_self (hsent _ _)
  | @other step outputs steps hstep hrest ih =>
    have hcarries := ih fun payload e hmem => hsent payload e (List.mem_cons_of_mem _ hmem)
    have hnone : step.delivered? = none := by
      cases step with
      | sent payload answer => exact nomatch hstep
      | _ => rfl
    rw [delivered_cons, hnone]
    exact hcarries

/-- Where nothing is sent, nothing is put on the link. -/
theorem Puts.of_quiet {steps : List Step} {outputs : List Output} (h : Puts steps outputs)
    (hquiet : Quiet steps) : outputs = [] := by
  -- by induction on the steps, none of which is a sending
  induction h with
  | nil => rfl
  | sent hsending hrest ih => exact nomatch hquiet _ List.mem_cons_self
  | other hstep hrest ih => exact ih fun step hmem => hquiet step (List.mem_cons_of_mem _ hmem)

/-- What two transcripts put on a link is what the first one puts there and then the second. -/
theorem Puts.of_append {before after : List Step} {outputs : List Output}
    (h : Puts (before ++ after) outputs) :
    ∃ first rest, outputs = first ++ rest ∧ Puts before first ∧ Puts after rest := by
  -- by induction on the first transcript, whose steps come first on the link
  induction before generalizing outputs with
  | nil => exact ⟨[], outputs, rfl, .nil, h⟩
  | cons step before ih =>
    cases h with
    | sent hsending hrest =>
      obtain ⟨first, rest, rfl, hfirst, hrest⟩ := ih hrest
      exact ⟨_, rest, (List.append_assoc ..).symm, .sent hsending hfirst, hrest⟩
    | other hstep hrest =>
      obtain ⟨first, rest, rfl, hfirst, hrest⟩ := ih hrest
      exact ⟨first, rest, rfl, .other hstep hfirst, hrest⟩

/-- Either everything went out, or there is a first payload that did not. -/
theorem Transcript.unsent_cases (steps : List Step) :
    (∀ payload e, .sent payload (.error e) ∉ steps) ∨
      ∃ before payload e after, steps = before ++ .sent payload (.error e) :: after ∧
        ∀ payload e, .sent payload (.error e) ∉ before := by
  -- by induction on the steps: the first one is such a payload, or the others decide
  induction steps with
  | nil => exact .inl fun _ _ => List.not_mem_nil
  | cons step steps ih =>
    by_cases hstep : ∃ payload e, step = .sent payload (.error e)
    · obtain ⟨payload, e, rfl⟩ := hstep
      exact .inr ⟨[], payload, e, steps, rfl, fun _ _ => List.not_mem_nil⟩
    · have hfirst : ∀ payload e, .sent payload (.error e) ≠ step :=
        fun payload e heq => hstep ⟨payload, e, heq.symm⟩
      rcases ih with hall | ⟨before, payload, e, after, rfl, hbefore⟩
      · exact .inl fun payload e hmem =>
          (List.mem_cons.mp hmem).elim (hfirst payload e) (hall payload e)
      · exact .inr ⟨step :: before, payload, e, after, rfl, fun payload e hmem =>
          (List.mem_cons.mp hmem).elim (hfirst payload e) (hbefore payload e)⟩

/-- Where nothing is sent, nothing goes out. -/
theorem Transcript.delivered_of_quiet {steps : List Step} (h : Quiet steps) :
    delivered steps = [] := by
  refine List.filterMap_eq_nil_iff.mpr fun step hmem => ?_
  have hidle := h step hmem
  cases step with
  | sent payload answer => exact nomatch hidle
  | _ => rfl

namespace Run

/-! ## Sessions -/

/-- What a session has put on its link: the frames of the first `k` payloads that it is to send, and
`rest`, which is part of the next frame. -/
structure Streamed (setup : Option Command) (commands : List Command) (steps : List Step)
    (outputs : List Output) (k : Nat) (rest : Bytes) : Prop where
  count_le : k ≤ (plan setup commands).length
  taken_eq : taken outputs = Frame.stream ((plan setup commands).take k) ++ rest
  encoded : ∀ payload ∈ (plan setup commands).take k,
    Frame.encode payload = .ok (Frame.octets payload)
  /-- The rest does not make up the next frame. -/
  rest_cut : ∀ next ∈ (plan setup commands)[k]?,
    rest <+: Frame.octets next ∧ rest ≠ Frame.octets next
  /-- There is a rest only if there was a next frame and a writing failed. -/
  rest_eq_nil : (plan setup commands)[k]? = none ∨ (∀ output ∈ outputs, output.failsWrite = false) →
    rest = []
  /-- After a writing or a flushing that failed, nothing is written or flushed. -/
  failed_last : ∀ before output after, outputs = before ++ output :: after →
    output.fails = true → after = []
  /-- A sending that met a failure of the link is such a writing or flushing. -/
  unsent : ∀ payload e, .sent payload (.error (.io e)) ∈ steps →
    ∃ output ∈ outputs.getLast?, output.fails = true
  /-- The frames are those of the payloads that went out, and perhaps one more, which could not be
  flushed. -/
  count : k = (delivered steps).length ∨
    k = (delivered steps).length + 1 ∧ ∃ cause, outputs.getLast? = some (.unflushed cause)
  /-- Whoever reads frames from the octets gets the payloads, and then the end of the stream. -/
  read_back : ∀ (τ : Type) (back : Link τ) (Unread : τ → Bytes → Prop) (r : τ),
    back.Ends none Unread → Unread r (taken outputs) → ∀ n,
    (back.readFrames (k + n) r).1 =
      ((plan setup commands).take k).map (fun payload => .ok (some payload)) ++
        List.replicate n (.ok none)

variable {setup : Option Command} {commands : List Command} {steps : List Step}
  {outputs : List Output} {k : Nat} {rest : Bytes}

/-- The octets are read back as they are cut into frames. -/
theorem Streamed.of_splits (hk : k ≤ (plan setup commands).length)
    (hsplits : Frame.Splits (taken outputs) ((plan setup commands).take k) rest)
    (rest_cut : ∀ next ∈ (plan setup commands)[k]?,
      rest <+: Frame.octets next ∧ rest ≠ Frame.octets next)
    (rest_eq_nil : (plan setup commands)[k]? = none ∨
      (∀ output ∈ outputs, output.failsWrite = false) → rest = [])
    (failed_last : ∀ before output after, outputs = before ++ output :: after →
      output.fails = true → after = [])
    (unsent : ∀ payload e, .sent payload (.error (.io e)) ∈ steps →
      ∃ output ∈ outputs.getLast?, output.fails = true)
    (count : k = (delivered steps).length ∨
      k = (delivered steps).length + 1 ∧ ∃ cause, outputs.getLast? = some (.unflushed cause)) :
    Streamed setup commands steps outputs k rest where
  count_le := hk
  taken_eq := hsplits.octets_eq
  encoded := fun payload hmem => Frame.encode_eq_ok (hsplits.sized payload hmem)
  rest_cut := rest_cut
  rest_eq_nil := rest_eq_nil
  failed_last := failed_last
  unsent := unsent
  count := count
  read_back := by
    intro τ back Unread r hback hr n
    -- a reader gets a whole frame for each payload, and then the part of one that is the end
    have hread := hback.readFrames_splits_closed hr hsplits n
    rwa [List.length_take_of_le hk] at hread

/-- No octets begin every frame, and make up none. -/
theorem nil_cut (next : Bytes) : [] <+: Frame.octets next ∧ [] ≠ Frame.octets next :=
  ⟨List.nil_prefix, (Frame.octets_ne_nil next).symm⟩

/-- Behind outputs that did not fail, the next one is the first that can have. -/
theorem failed_last_of_works {done : List Output} {last : Output}
    (hworks : ∀ output ∈ done, output.fails = false) {before after : List Output} {output : Output}
    (heq : done ++ [last] = before ++ output :: after) (hfails : output.fails = true) :
    after = [] := by
  rcases List.eq_nil_or_concat after with hnil | ⟨init, final, rfl⟩
  · exact hnil
  · -- then the failed output would be one of those before the last
    rw [List.concat_eq_append, ← List.cons_append, ← List.append_assoc] at heq
    obtain ⟨rfl, -⟩ := List.append_inj' heq rfl
    rw [hworks output (by simp)] at hfails
    exact nomatch hfails

/-- A session on which everything that was sent went out has put frames on its link and nothing
else. -/
theorem streamed_of_carries (h : Carries outputs (delivered steps))
    (hstart : delivered steps <+: plan setup commands)
    (hsent : ∀ payload e, .sent payload (.error (.io e)) ∉ steps) :
    Streamed setup commands steps outputs (delivered steps).length [] := by
  have htake := List.prefix_iff_eq_take.mp hstart
  refine .of_splits hstart.length_le ?_ (fun next _ => nil_cut next) (fun _ => rfl) ?_ ?_ (.inl rfl)
  · rw [← htake]
    exact ⟨h.sized, by rw [h.taken_eq, List.append_nil], Frame.brokenOff_nil⟩
  · rintro before output after rfl hfails
    rw [h.works output (by simp)] at hfails
    exact nomatch hfails
  · exact fun payload e hmem => absurd hmem (hsent payload e)

/-- A session with a payload that did not go out has put the frames before it on its link, and what
sending the payload put there. -/
theorem streamed_of_unsent {before after : List Step} {payload : Bytes} {e : Wire.Error}
    {first last : List Output} (h : Carries first (delivered before))
    (hstart : delivered before <+: plan setup commands)
    (hturn : (plan setup commands)[(delivered before).length]? = some payload)
    (hbefore : ∀ payload e, .sent payload (.error e) ∉ before) (hquiet : Quiet after)
    (hsending : Link.Sending payload (.error e) last) :
    ∃ k rest, Streamed setup commands (before ++ .sent payload (.error e) :: after)
      (first ++ last) k rest := by
  have htake := List.prefix_iff_eq_take.mp hstart
  have hdelivered : delivered (before ++ .sent payload (.error e) :: after) = delivered before := by
    simp [delivered_of_quiet hquiet]
  have honly : ∀ payload' e',
      .sent payload' (.error e') ∈ before ++ .sent payload (.error e) :: after → e' = e := by
    intro payload' e' hmem
    rcases List.mem_append.mp hmem with hmem | hmem
    · exact absurd hmem (hbefore payload' e')
    · rcases List.mem_cons.mp hmem with heq | hmem
      · exact (Except.error.inj (Step.sent.inj heq).2)
      · exact nomatch hquiet _ hmem
  cases hsending with
  | tooLarge hsize =>
    -- nothing was written of it, so the link is as it was before
    rw [← hdelivered] at h hstart
    rw [List.append_nil]
    refine ⟨_, [], streamed_of_carries h hstart fun payload' e' hmem => ?_⟩
    exact nomatch honly payload' _ hmem
  | @cut done final left cause hsize hworks hfinal htaken hleft =>
    -- what was taken of its frame is the rest
    have hcut : taken done <+: Frame.octets payload ∧ taken done ≠ Frame.octets payload := by
      rw [htaken]
      exact ⟨List.prefix_append _ _, fun heq => hleft (List.append_right_eq_self.mp heq.symm)⟩
    have hworks' : ∀ output ∈ first ++ done, output.fails = false :=
      List.forall_mem_append.mpr ⟨h.works, hworks⟩
    rw [← List.append_assoc]
    refine ⟨(delivered before).length, taken done, .of_splits hstart.length_le ?_ ?_ ?_ ?_ ?_ ?_⟩
    · rw [← htake]
      refine ⟨h.sized, ?_, payload, hsize, hcut⟩
      simp [h.taken_eq, Link.Output.octets_of_failsWrite hfinal]
    · intro next hnext
      obtain rfl : payload = next := Option.some.inj (hturn.symm.trans hnext)
      exact hcut
    · rintro (hnone | hall)
      · rw [hturn] at hnone
        exact nomatch hnone
      · rw [hall final (by simp)] at hfinal
        exact nomatch hfinal
    · exact fun _ _ _ heq hfails => failed_last_of_works hworks' heq hfails
    · exact fun _ _ _ => ⟨final, List.getLast?_concat, Link.Output.fails_of_failsWrite hfinal⟩
    · exact .inl (by rw [hdelivered])
  | @unflushed done cause hsize hworks htaken =>
    -- its frame is there as a whole, and counts as one more
    have hworks' : ∀ output ∈ first ++ done, output.fails = false :=
      List.forall_mem_append.mpr ⟨h.works, hworks⟩
    have hnext : (plan setup commands).take ((delivered before).length + 1) =
        delivered before ++ [payload] := by
      rw [List.take_add_one, ← htake, hturn]
      rfl
    have hlt := (List.getElem?_eq_some_iff.mp hturn).1
    rw [← List.append_assoc]
    refine ⟨(delivered before).length + 1, [], .of_splits hlt ?_ (fun next _ => nil_cut next)
      (fun _ => rfl) ?_ ?_ ?_⟩
    · rw [hnext]
      refine ⟨List.forall_mem_append.mpr ⟨h.sized, List.forall_mem_singleton.mpr hsize⟩, ?_,
        Frame.brokenOff_nil⟩
      simp [h.taken_eq, htaken, Output.octets]
    · exact fun _ _ _ heq hfails => failed_last_of_works hworks' heq hfails
    · exact fun _ _ _ => ⟨_, List.getLast?_concat, rfl⟩
    · exact .inr ⟨by rw [hdelivered], cause, List.getLast?_concat⟩

/-- Whatever the link does, a session puts the frames of its first payloads on it, and perhaps part
of the next one. The record of that changes nothing in the session. -/
theorem session_streamed (link : Link σ) (connect : σ → Opening × σ) (clock : σ → Duration × σ)
    (s : σ) (endpoint id : String) (setup : Option Command) (commands : List Command)
    (least : Severity) :
    let account :=
      (((session endpoint id setup commands).conduct (link.peer connect clock) s).run least).2
    ∃ outputs k rest,
      (((session endpoint id setup commands).conduct (link.recordedPeer connect clock)
          (s, [])).run least).2 = ⟨account.steps, (account.state, outputs), account.fate⟩ ∧
        Streamed setup commands account.steps outputs k rest := by
  intro account
  have haccount :
      account = (session endpoint id setup commands).account (link.peer connect clock) s :=
    Dialogue.run_conduct_snd _ _ s least
  have hcourse := session_course (link.peer connect clock) endpoint id setup commands s
  obtain ⟨outputs, hrecorded, hputs⟩ :=
    account_recorded link connect clock (session endpoint id setup commands) s []
  rw [← haccount] at hcourse hrecorded hputs
  suffices ∃ k rest, Streamed setup commands account.steps outputs k rest by
    obtain ⟨k, rest, hstreamed⟩ := this
    exact ⟨outputs, k, rest, (Dialogue.run_conduct_snd _ _ _ least).trans hrecorded, hstreamed⟩
  -- a payload that was not sent is looked for, as nothing comes behind the first one
  rcases unsent_cases account.steps with hsent | ⟨before, payload, e, after, hsteps, hbefore⟩
  · exact ⟨_, [], streamed_of_carries (hputs.carries hsent) hcourse.delivered_prefix
      fun payload e => hsent payload (.io e)⟩
  · -- the payload that did not go out is the next one, and nothing is sent after it
    obtain ⟨hturn, hlength, -, hquiet⟩ := hcourse.orderly _ _ _ hsteps
    have hstart := hcourse.delivered_prefix
    rw [hsteps] at hputs hstart ⊢
    rw [delivered_append] at hstart
    obtain ⟨first, last, rfl, hfirst, hlast⟩ := hputs.of_append
    cases hlast with
    | other hstep hrest => exact nomatch hstep
    | sent hsending hrest =>
      have hafter : Quiet after := hquiet (.inl ⟨e, rfl⟩)
      obtain rfl := hrest.of_quiet hafter
      rw [List.append_nil]
      exact streamed_of_unsent (hfirst.carries hbefore) ((List.prefix_append _ _).trans hstart)
        (hlength ▸ hturn) hbefore hafter hsending

end Run
end PolicyReplay
