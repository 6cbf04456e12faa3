import PolicyReplay.Proofs.Except
import PolicyReplay.Run.Execute

/-!
# What has to be there before a run

A run opens no connection before its configuration is valid, every query line of both traces
compiles with the placeholder filled, and the policy, if there is one, yields a setup command.
`Ready` says so without the functions that prepare a run.

## Key results

- `prepare_eq_ok_iff`: what preparation yields, and when it yields anything
- `isFatal_of_prepare`: whatever preparation fails with ends the run
- `Unusable.compile_ne_ok`: the policy documents that yield no setup command
-/

namespace PolicyReplay.Run

variable {files : Files} {config : Config} {workload : Workload} {setup : Option Command}
  {commands : List Command}

/-! ## The parts of a run -/

/-- The trace file is there, and its query lines with the placeholder filled are compiled to the
commands, in order. -/
def TraceOf (files : Files) (path : String) (valueSize : Nat) (commands : List Command) : Prop :=
  ∃ text, files.readText path = .ok text ∧
    List.Forall₂
      (fun line command =>
        Command.ofLine (Trace.expand (Trace.filler valueSize) line.text) = .ok command)
      (Trace.queryLines text) commands

/-- The commands of a trace file are compiled from lines. -/
theorem TraceOf.compiled {path : String} {valueSize : Nat}
    (h : TraceOf files path valueSize commands) :
    ∀ command ∈ commands, ∃ line, Command.ofLine line = .ok command := by
  obtain ⟨text, -, hlines⟩ := h
  intro command hcommand
  generalize Trace.queryLines text = lines at hlines
  -- line by line, on the lines that were compiled
  induction hlines with
  | nil => exact nomatch hcommand
  | @cons line first lines rest hfirst _ ih =>
    rcases List.mem_cons.1 hcommand with rfl | hrest
    · exact ⟨_, hfirst⟩
    · exact ih hrest

/-- The setup command of a configuration: none without a policy, and else the one of the policy
document. -/
def SetupOf (files : Files) (config : Config) : Option Command → Prop
  | none => config.policy = none
  | some command => ∃ path document, config.policy = some path ∧
    Policy.read files path = .ok document ∧ Setup.compile document = .ok command

/-- With a policy there is a setup command, and it is that of the policy document. -/
theorem SetupOf.of_configured {path : String} (h : SetupOf files config setup)
    (hpolicy : config.policy = some path) :
    ∃ document command, setup = some command ∧ Policy.read files path = .ok document ∧
      Setup.compile document = .ok command := by
  -- without a setup command there would be no policy
  cases setup with
  | none => exact nomatch hpolicy.symm.trans h
  | some command =>
    obtain ⟨path', document, hpath, hread, hcompile⟩ := h
    obtain rfl := Option.some.inj (hpolicy.symm.trans hpath)
    exact ⟨document, command, rfl, hread, hcompile⟩

/-- Both traces and the setup command of a configuration are there. -/
structure Prepared (files : Files) (config : Config) (workload : Workload)
    (setup : Option Command) : Prop where
  name : workload.name = config.workload
  load : TraceOf files (Workload.loadPath config.traceFolder config.workload) config.valueSize
    workload.load
  run : TraceOf files (Workload.runPath config.traceFolder config.workload) config.valueSize
    workload.run
  policy : SetupOf files config setup

/-- All that a run needs before it opens a connection. -/
structure Ready (files : Files) (config : Config) (workload : Workload)
    (setup : Option Command) : Prop extends Prepared files config workload setup where
  valid : config.validate = .ok ()

/-! ## The workload -/

/-- A trace file is compiled to these commands exactly if its lines are. -/
theorem compileTraceWith_eq_ok_iff {path : String} {valueSize : Nat} :
    Workload.compileTraceWith files path (Trace.filled valueSize) = .ok commands ↔
      TraceOf files path valueSize commands := by
  simp only [Workload.compileTraceWith, Workload.readTrace, Except.bind_eq_ok_iff,
    Except.mapError_eq_ok_iff, Trace.compileLinesWith, Except.mapM_eq_ok_iff, Trace.compileLine,
    Trace.filled_eq_expand]
  constructor
  -- a file that cannot be read gives no lines
  · rintro ⟨lines, hlines, hcommands⟩
    split at hlines
    · rename_i text htext
      obtain rfl := Except.ok.inj hlines
      exact ⟨text, htext, hcommands⟩
    · exact nomatch hlines
  · rintro ⟨text, htext, hcommands⟩
    exact ⟨Trace.queryLines text, by rw [htext], hcommands⟩

/-- A workload is assembled exactly if there is room for a value and both traces compile. -/
theorem assemble_eq_ok_iff {folder name : String} {valueSize : Nat} :
    Workload.assemble files folder name valueSize = .returned (.ok workload) ↔
      valueSize ≤ Capacity.maxOctets ∧ workload.name = name ∧
        TraceOf files (Workload.loadPath folder name) valueSize workload.load ∧
        TraceOf files (Workload.runPath folder name) valueSize workload.run := by
  rw [Workload.assemble, Capacity.reserve_eq_returned_iff, Nat.mul_one, Workload.compile]
  simp only [Except.bind_eq_ok_iff, compileTraceWith_eq_ok_iff]
  constructor
  -- the traces are compiled in the order of the fields, so each field tells of its own trace
  · rintro ⟨hroom, load, hload, run, hrun, hworkload⟩
    obtain rfl := Except.ok.inj hworkload
    exact ⟨hroom, rfl, hload, hrun⟩
  · rintro ⟨hroom, rfl, hload, hrun⟩
    exact ⟨hroom, workload.load, hload, workload.run, hrun, rfl⟩

/-- Preparing the workload is assembling it. -/
theorem run_prepareWorkload (least : Severity) :
    ((prepareWorkload files config).run least).2 =
      (Workload.assemble files config.traceFolder config.workload config.valueSize).map
        (·.mapError .workload) := by
  unfold prepareWorkload
  -- what is logged on the way is not looked at
  cases Workload.assemble files config.traceFolder config.workload config.valueSize with
  | crashed message => rfl
  | returned result =>
    cases result with
    | error e => rfl
    | ok assembled => rfl

/-! ## The policy -/

/-- Preparing the policy, without what is logged. -/
theorem run_preparePolicy (least : Severity) :
    ((preparePolicy files config).run least).2 =
      match config.policy with
      | none => .ok none
      | some path =>
        match Policy.read files path with
        | .error e => .error (.policy e)
        | .ok document =>
          match Setup.compile document with
          | .ok command => .ok (some command)
          | .error skip => .error (.invalidConfig (.policySkipped path skip)) := by
  -- the policy is absent, cannot be read, is skipped or is compiled
  unfold preparePolicy
  cases config.policy with
  | none => rfl
  | some path =>
    cases hread : Policy.read files path with
    | error e => simp [hread]
    | ok document =>
      cases hcompile : Setup.compile document with
      | error skip => simp [hread, Setup.compileLogged, hcompile]
      | ok command => simp [hread, Setup.compileLogged, hcompile]

/-- A policy is prepared exactly if there is none or it yields a setup command. -/
theorem preparePolicy_eq_ok_iff {least : Severity} :
    ((preparePolicy files config).run least).2 = .ok setup ↔ SetupOf files config setup := by
  rw [run_preparePolicy]
  -- in each case the command of the document, if there is one, is the one to be set up
  cases hpolicy : config.policy with
  | none => cases setup <;> simp [SetupOf, hpolicy]
  | some path =>
    cases hread : Policy.read files path with
    | error e => cases setup <;> simp [SetupOf, hpolicy, hread]
    | ok document =>
      cases hcompile : Setup.compile document with
      | error skip => cases setup <;> simp [SetupOf, hpolicy, hread, hcompile]
      | ok compiled => cases setup <;> simp [SetupOf, hpolicy, hread, hcompile]

/-- Whatever is wrong with a policy ends the run. -/
theorem isFatal_of_preparePolicy {least : Severity} {e : Error}
    (h : ((preparePolicy files config).run least).2 = .error e) : e.isFatal = true := by
  rw [run_preparePolicy] at h
  -- each error of a policy is fatal by its kind
  split at h
  · exact nomatch h
  · split at h
    · obtain rfl := Except.error.inj h
      rfl
    · split at h
      · exact nomatch h
      · obtain rfl := Except.error.inj h
        rfl

/-- A policy document of which no setup command can be made. -/
inductive Unusable : Json → Prop
  | notObject (document : Json) (h : ∀ members, document ≠ .object members) : Unusable document
  /-- A mandatory member is not there. -/
  | lacking (members : List (String × Json)) (key : String)
    (hkey : key ∈ Setup.mandatoryKeys) (h : ∀ value, (key, value) ∉ members) :
    Unusable (.object members)
  /-- The default policy is there, but it is no object. -/
  | misshapen (members : List (String × Json)) (value : Json)
    (hmem : (Setup.defaultPolicyKey, value) ∈ members)
    (hvalue : ∀ fields, value ≠ .object fields) :
    Unusable (.object members)

/-- A mandatory member that is not there is missed. -/
theorem mem_missingKeys {members : List (String × Json)} {key : String}
    (hkey : key ∈ Setup.mandatoryKeys) (h : ∀ value, (key, value) ∉ members) :
    key ∈ Setup.missingKeys (.object members) := by
  -- the first member of that name would be found
  have hnone : Json.member? key members = none := by
    refine List.lookup_eq_none_iff.2 fun member hmember => ?_
    refine bne_iff_ne.2 fun heq => ?_
    rw [heq] at h
    exact h member.2 hmember
  rw [Setup.missingKeys, List.mem_filter, hnone]
  exact ⟨hkey, rfl⟩

/-- A default policy that is no object yields no arguments, wherever it stands. -/
theorem documentArguments_ne_ok {members : List (String × Json)} {value : Json}
    (hmem : (Setup.defaultPolicyKey, value) ∈ members) (hvalue : ∀ fields, value ≠ .object fields)
    (text : List Char) : Setup.documentArguments members ≠ .ok text := by
  -- a member before the default policy only puts its own arguments in front of the others
  have hfront : ∀ {x : Except Setup.Skip (List Char)} {front text : List Char},
      x.map (front ++ ·) = .ok text → ∃ rest, x = .ok rest := by
    intro x front text h
    cases x with
    | error skip => exact nomatch h
    | ok rest => exact ⟨rest, rfl⟩
  fun_induction Setup.documentArguments members generalizing text with
  | case1 => exact nomatch hmem
  | case2 rest fields ih =>
    intro h
    obtain ⟨others, hothers⟩ := hfront h
    rcases List.mem_cons.1 hmem with heq | hmem
    · exact hvalue fields (Prod.mk.inj heq).2
    · exact ih hmem others hothers
  | case3 rest item hitem => exact fun h => nomatch h
  | case4 name item rest hname ih =>
    intro h
    obtain ⟨others, hothers⟩ := hfront h
    rcases List.mem_cons.1 hmem with heq | hmem
    · exact hname (Prod.mk.inj heq).1.symm
    · exact ih hmem others hothers

/-- An unusable document yields no setup command. -/
theorem Unusable.compile_ne_ok {document : Json} (h : Unusable document) (command : Command) :
    Setup.compile document ≠ .ok command := by
  intro hcompile
  unfold Setup.compile at hcompile
  split at hcompile
  · rename_i members hmissing
    cases h with
    | notObject _ hnot => exact hnot members rfl
    | lacking _ key hkey hlacking =>
      have hmem := mem_missingKeys hkey hlacking
      rw [hmissing] at hmem
      exact absurd hmem List.not_mem_nil
    | misshapen _ value hmem hvalue =>
      -- nothing is missing, so it is the arguments that cannot be had
      cases harguments : Setup.documentArguments members with
      | error skip => rw [harguments] at hcompile; exact nomatch hcompile
      | ok text => exact documentArguments_ne_ok hmem hvalue text harguments
  · exact nomatch hcompile

/-! ## All of it -/

/-- Whatever is wrong with a configuration ends the run. -/
theorem isFatal_of_validate {e : Error} (h : config.validate = .error e) : e.isFatal = true := by
  -- each error of a configuration is fatal by its kind
  unfold Config.validate at h
  split at h
  · obtain rfl := Except.error.inj h
    rfl
  · split at h
    · obtain rfl := Except.error.inj h
      rfl
    · exact nomatch h

/-- What preparation yields, and when it yields anything. -/
theorem prepare_eq_ok_iff {least : Severity} :
    ((prepare files config).run least).2 = .returned (.ok (workload, setup)) ↔
      config.valueSize ≤ Capacity.maxOctets ∧ Prepared files config workload setup := by
  have hsplit : ((prepare files config).run least).2 = .returned (.ok (workload, setup)) ↔
      Workload.assemble files config.traceFolder config.workload config.valueSize =
        .returned (.ok workload) ∧
      ((preparePolicy files config).run least).2 = .ok setup := by
    rw [prepare, Logging.run_bind, run_prepareWorkload]
    -- a workload that fails ends the preparation; with one, the policy decides
    cases Workload.assemble files config.traceFolder config.workload config.valueSize with
    | crashed message => simp [Fate.map]
    | returned result =>
      cases result with
      | error e => simp [Fate.map, Except.mapError]
      | ok assembled =>
        simp only [Fate.map, Except.mapError, Logging.run_bind]
        cases ((preparePolicy files config).run least).2 with
        | error e => simp
        | ok prepared => simp
  -- the two parts are prepared one after the other and do not depend on each other
  rw [hsplit, assemble_eq_ok_iff, preparePolicy_eq_ok_iff]
  constructor
  · rintro ⟨⟨hroom, hname, hload, hrun⟩, hpolicy⟩
    exact ⟨hroom, hname, hload, hrun, hpolicy⟩
  · rintro ⟨hroom, hname, hload, hrun, hpolicy⟩
    exact ⟨⟨hroom, hname, hload, hrun⟩, hpolicy⟩

/-- Whatever preparation fails with ends the run. -/
theorem isFatal_of_prepare {least : Severity} {e : Error}
    (h : ((prepare files config).run least).2 = .returned (.error e)) : e.isFatal = true := by
  -- the error is one of the workload, and those are all fatal, or one of the policy
  rw [prepare, Logging.run_bind, run_prepareWorkload] at h
  cases hassemble : Workload.assemble files config.traceFolder config.workload config.valueSize with
  | crashed message => simp [hassemble, Fate.map] at h
  | returned result =>
    cases result with
    | error cause =>
      simp only [hassemble, Fate.map, Except.mapError, Logging.run_pure, Fate.returned.injEq,
        Except.error.injEq] at h
      rw [← h]
      rfl
    | ok assembled =>
      simp only [hassemble, Fate.map, Except.mapError, Logging.run_bind] at h
      cases hpolicy : ((preparePolicy files config).run least).2 with
      | error cause =>
        simp only [hpolicy, Logging.run_pure, Fate.returned.injEq, Except.error.injEq] at h
        rw [← h]
        exact isFatal_of_preparePolicy hpolicy
      | ok prepared => simp [hpolicy] at h

end PolicyReplay.Run
