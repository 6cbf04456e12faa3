import PolicyReplay.Proofs.Run.Phases
import PolicyReplay.Proofs.Session.Lockstep

/-!
# No command without an acknowledged policy

A run that is configured with a policy either makes no connection at all or opens each of its
connections with the setup command of the policy, and nothing else is sent on a connection before
the setup command is acknowledged there. A policy that cannot be had never makes a run without one.

## Key results

- `Hosts.orderly`: what holds whenever something is sent on a connection of a run
- `policyFirst_of_orderly`: an orderly transcript puts the policy first
- `execute_policyFirst`: a run with a policy puts it first everywhere, or does not start
-/

namespace PolicyReplay.Run

open Transcript

variable {σ : Type} {commands : List Command} {steps : List Step}

/-! ## Connections are orderly -/

/-- Being orderly is not lost when more happens that is no sending or receiving. -/
theorem Orderly.append_quiet {setup : Option Command} {before after more : List Step}
    {step : Step} (h : Orderly setup commands before step after) (hmore : Quiet more) :
    Orderly setup commands before step (after ++ more) := by
  have hquiet : Quiet after → Quiet (after ++ more) := by
    intro hafter step hstep
    rcases List.mem_append.1 hstep with hstep | hstep
    · exact hafter step hstep
    · exact hmore step hstep
  -- only what stands behind a sending or a receiving was required to be quiet
  cases step with
  | sent payload answer =>
    obtain ⟨hturn, hlength, hack, hlast⟩ := h
    exact ⟨hturn, hlength, hack, fun hend => hquiet (hlast hend)⟩
  | received answer => exact fun hwelcome => hquiet (h hwelcome)
  | connected answer => trivial
  | closed answer => trivial
  | counted tally => trivial

/-- A connection that hosts a session is orderly, whatever is counted at its end. -/
theorem Hosts.orderly {setup : Option Command} (h : Hosts setup commands steps) :
    Throughout (Orderly setup commands) steps := by
  obtain ⟨first, fate, tallies, hcourse, rfl⟩ := h
  have htallies : ∀ step ∈ tallies.map Step.counted, ∃ tally, step = .counted tally := by
    intro step hstep
    obtain ⟨tally, -, rfl⟩ := List.mem_map.1 hstep
    exact ⟨tally, rfl⟩
  have hquiet : Quiet (tallies.map .counted) := by
    intro step hstep
    obtain ⟨tally, rfl⟩ := htallies step hstep
    rfl
  -- the session is orderly by itself, and the counting at its end is no sending or receiving
  rw [throughout_append]
  refine ⟨hcourse.orderly.mono fun before step after h => h.append_quiet hquiet, ?_⟩
  intro before step after hsplit
  obtain ⟨tally, rfl⟩ := htallies step (by rw [hsplit]; simp)
  trivial

/-! ## The policy comes first -/

/-- On a connection the setup command comes first, and all else waits for its acknowledgement. -/
structure PolicyFirst (setup : Command) (steps : List Step) : Prop where
  first_sent : ∀ payload ∈ (attempted steps).head?, payload = setup.bytes
  /-- What is sent after something else is sent after the acknowledgement. -/
  others_wait : ∀ before payload answer after, steps = before ++ .sent payload answer :: after →
    attempted before ≠ [] → (frames before).head? = some Frame.acknowledgement
  /-- If the first frame is no acknowledgement, the setup command is all that is sent. -/
  nothing_else : (frames steps).head? ≠ some Frame.acknowledgement →
    attempted steps <+: [setup.bytes]

/-- The first payload that was to go out stands behind steps that send nothing. -/
theorem attempted_eq_cons {payload : Bytes} {rest : List Bytes}
    (h : attempted steps = payload :: rest) :
    ∃ before answer after, steps = before ++ .sent payload answer :: after ∧
      attempted before = [] ∧ attempted after = rest := by
  -- the steps in front are those that attempt nothing
  obtain ⟨before, step, after, hsteps, hbefore, hstep, hafter⟩ := List.filterMap_eq_cons_iff.1 h
  cases step with
  | sent sent answer =>
    obtain rfl := Option.some.inj hstep
    exact ⟨before, answer, after, hsteps, List.filterMap_eq_nil_iff.2 hbefore, hafter⟩
  | _ => exact nomatch hstep

/-- Where nothing was to go out, nothing went out. -/
theorem delivered_eq_nil (h : attempted steps = []) : delivered steps = [] := by
  -- what went out was to go out
  refine List.filterMap_eq_nil_iff.2 fun step hstep => ?_
  have hnone := List.filterMap_eq_nil_iff.1 h step hstep
  cases step with
  | sent payload answer => exact nomatch hnone
  | _ => rfl

/-- Whatever is sent after something else is sent after the acknowledgement: what was sent before
went out, or nothing would follow it, and it was answered. -/
theorem acknowledged_of_orderly {setup : Command}
    (h : Throughout (Orderly (some setup) commands) steps) {before after : List Step}
    {payload : Bytes} {answer : Except Wire.Error Unit}
    (hsteps : steps = before ++ .sent payload answer :: after) (hbefore : attempted before ≠ []) :
    (frames before).head? = some Frame.acknowledgement := by
  -- there are as many frames as payloads went out, and the first of them is the acknowledgement
  obtain ⟨-, hlength, hack, -⟩ := h before _ after hsteps
  cases hframes : frames before with
  | cons frame others =>
    have hframe := hack rfl frame (by rw [hframes]; rfl)
    rw [hframe]
    rfl
  | nil =>
    -- then nothing went out before, though something was to
    rw [hframes, List.length_nil, List.length_eq_zero_iff] at hlength
    obtain ⟨earlier, others, hattempted⟩ := List.exists_cons_of_ne_nil hbefore
    obtain ⟨front, outcome, between, hsplit, -, -⟩ := attempted_eq_cons hattempted
    rw [hsplit, List.append_assoc, List.cons_append] at hsteps
    cases outcome with
    | ok _ =>
      rw [hsplit, delivered_append, delivered_cons] at hlength
      simp at hlength
    | error e =>
      -- what did not go out is the last thing that is sent
      obtain ⟨-, -, -, hquiet⟩ := h front _ _ hsteps
      have hsilent := hquiet (.inl ⟨e, rfl⟩) (.sent payload answer) (by simp)
      exact nomatch hsilent

/-- An orderly transcript puts the policy first. -/
theorem policyFirst_of_orderly {setup : Command}
    (h : Throughout (Orderly (some setup) commands) steps) : PolicyFirst setup steps := by
  -- the first payload is sent when nothing has gone out, and then it is the turn of the setup
  -- command
  have hfirst : ∀ payload rest, attempted steps = payload :: rest → payload = setup.bytes := by
    intro payload rest hattempted
    obtain ⟨before, answer, after, hsteps, hbefore, -⟩ := attempted_eq_cons hattempted
    obtain ⟨hturn, hlength, -, -⟩ := h before _ after hsteps
    rw [← hlength, delivered_eq_nil hbefore] at hturn
    exact (Option.some.inj hturn).symm
  constructor
  case first_sent =>
    intro payload hpayload
    obtain ⟨rest, hattempted⟩ := List.head?_eq_some_iff.1 hpayload
    exact hfirst payload rest hattempted
  case others_wait =>
    intro before payload answer after hsteps hbefore
    exact acknowledged_of_orderly h hsteps hbefore
  case nothing_else =>
    intro hunacknowledged
    cases hattempted : attempted steps with
    | nil => exact List.nil_prefix
    | cons payload rest =>
      obtain ⟨before, answer, after, hsteps, -, hrest⟩ := attempted_eq_cons hattempted
      rw [hfirst payload rest hattempted]
      cases rest with
      | nil => exact List.prefix_refl _
      | cons next others =>
        -- a second payload would have waited for the acknowledgement
        obtain ⟨between, outcome, final, hafter, -, -⟩ := attempted_eq_cons hrest
        have hsplit : steps =
            (before ++ .sent payload answer :: between) ++ .sent next outcome :: final := by
          rw [hsteps, hafter, List.append_assoc, List.cons_append]
        have hack := acknowledged_of_orderly h hsplit (by simp)
        rw [hsplit, frames_append, List.head?_append, hack] at hunacknowledged
        exact absurd rfl hunacknowledged

/-! ## Runs with a policy -/

/-- What can be wrong with the policy file of a run. -/
inductive PolicyFault (files : Files) (path : String) : Prop
  | unreadable (cause : SystemError) (hread : files.readText path = .error cause)
  | unparsable (text : String) (hread : files.readText path = .ok text)
    (hparse : Json.parse? text.toList = none)
  | unusable (document : Json) (hread : Policy.read files path = .ok document)
    (hdocument : Unusable document)

/-- A policy that something is wrong with yields no setup command. -/
theorem PolicyFault.no_setup {files : Files} {path : String} (h : PolicyFault files path)
    {document : Json} (hread : Policy.read files path = .ok document) (setup : Command) :
    Setup.compile document ≠ .ok setup := by
  -- by what is wrong: there is no text, no document or no usable one
  cases h with
  | unreadable cause hfile =>
    rw [Policy.read, hfile] at hread
    exact nomatch hread
  | unparsable text hfile hparse =>
    simp only [Policy.read, hfile, hparse] at hread
    exact nomatch hread
  | unusable other hother hunusable =>
    obtain rfl := Except.ok.inj (hother.symm.trans hread)
    exact hunusable.compile_ne_ok setup

/-- A run with a policy opens each of its connections with the setup command of the policy, or it
does not start; and it does not start if something is wrong with the policy. -/
theorem execute_policyFirst (files : Files) (config : Config) (site : Site σ)
    (occasion : Occasion) (least : Severity) (path : String)
    (hpolicy : config.policy = some path) :
    let execution := ((execute files config site occasion).run least).2
    (Unstarted execution ∨
      ∃ document setup, Policy.read files path = .ok document ∧
        Setup.compile document = .ok setup ∧
        ∀ connection ∈ execution.connections, PolicyFirst setup connection.steps) ∧
      (PolicyFault files path → Unstarted execution) := by
  intro execution
  -- a run that does not start sends nothing; one that starts has a setup command
  rcases execute_cases files config site occasion least with
    hunstarted | ⟨workload, prepared, hready, hexecution⟩
  · exact ⟨.inl hunstarted, fun _ => hunstarted⟩
  · obtain ⟨document, setup, rfl, hread, hcompile⟩ := hready.policy.of_configured hpolicy
    refine ⟨.inr ⟨document, setup, hread, hcompile, fun connection hconnection => ?_⟩, ?_⟩
    · rw [show execution = _ from hexecution] at hconnection
      obtain ⟨commands, hhosts⟩ := hosts_of_mem_carriedOut hconnection
      exact policyFirst_of_orderly hhosts.orderly
    · intro hfault
      exact absurd hcompile (hfault.no_setup hread setup)

/-- A run of two workers, where the controller acknowledges the policy to the load phase and refuses
it to the workers, the second of which has nothing to replay. -/
theorem execute_policyFirst_refusing :
    let files : Files := {
      read := fun path => .ok (Text.encode
        (if path = "t/w_load" then "query(get(\"a\"))"
          else if path = "t/w_run" then "query(put(\"b\",\"VAL\"))"
          else "\x7b\"sessionKey\":\"u1\",\"default_policy\":\x7b\"objPur\":[\"ads\"]\x7d\x7d").toList)
      list := fun _ => .ok []
      write := fun _ _ => .ok () }
    let config : Config :=
      { workload := "w", traceFolder := "t", clients := 2, valueSize := 3, policy := some "p" }
    let site : Site Nat := {
      endpoint := "mock://controller"
      peer := {
        connect := fun n => (.opened, n)
        send := fun _ n => (.ok (), n)
        receive := fun n => (.ok (some (if n = 0 then Frame.acknowledgement else [])), n)
        close := fun n => (.ok (), n)
        clock := fun n => (.zero, n) }
      opening := id }
    let execution :=
      ((execute files config site ⟨"r1", ⟨0, 0⟩, .zero, .zero⟩).run .info).2
    config.policy = some "p" ∧ execution.connections.length = 3 ∧
      ∀ connection ∈ execution.connections,
        PolicyFirst ⟨"user_policy -sessionKey u1 -objPur ads"⟩ connection.steps := by
  intro files config site execution
  -- both traces and the policy are compiled here, so the run is ready
  have hload : TraceOf files "t/w_load" 3 [⟨"get a"⟩] :=
    compileTraceWith_eq_ok_iff.1 (Except.eq_ok_of_toOption (by decide +kernel))
  have hrun : TraceOf files "t/w_run" 3 [⟨"put b xxx"⟩] :=
    compileTraceWith_eq_ok_iff.1 (Except.eq_ok_of_toOption (by decide +kernel))
  have hpaths : Workload.loadPath "t" "w" = "t/w_load" ∧ Workload.runPath "t" "w" = "t/w_run" := by
    decide +kernel
  have hpolicy : ((Policy.read files "p").toOption.bind fun document =>
      (Setup.compile document).toOption) = some ⟨"user_policy -sessionKey u1 -objPur ads"⟩ := by
    decide +kernel
  obtain ⟨document, hdocument, hsetup⟩ := Option.bind_eq_some_iff.1 hpolicy
  have hread := Except.eq_ok_of_toOption hdocument
  have hcompile := Except.eq_ok_of_toOption hsetup
  have hready : Ready files config ⟨"w", [⟨"get a"⟩], [⟨"put b xxx"⟩]⟩
      (some ⟨"user_policy -sessionKey u1 -objPur ads"⟩) :=
    ⟨⟨rfl, by rw [hpaths.1]; exact hload, by rw [hpaths.2]; exact hrun, "p", document, rfl, hread,
      hcompile⟩, Except.eq_ok_of_toOption (by decide +kernel)⟩
  have hlength : execution.connections.length = 3 := by
    have hexecution : execution = carriedOut config site _ _ _ :=
      execute_of_ready hready (by decide)
    rw [hexecution]
    rfl
  refine ⟨rfl, hlength, ?_⟩
  rcases (execute_policyFirst files config site _ .info "p" rfl).1 with
    hunstarted | ⟨other, setup, hother, hother_setup, hfirst⟩
  -- the run has started, for it has connections
  · rw [hunstarted.no_connections] at hlength
    exact nomatch hlength
  · obtain rfl := Except.ok.inj (hother.symm.trans hread)
    obtain rfl := Except.ok.inj (hother_setup.symm.trans hcompile)
    exact hfirst

end PolicyReplay.Run
