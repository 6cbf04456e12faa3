import PolicyReplay.Proofs.Except
import PolicyReplay.Proofs.List
import PolicyReplay.Proofs.Text.Split
import PolicyReplay.Proofs.Text.Utf8
import PolicyReplay.Settings.File

/-!
# The layers of the settings

Each setting is what a flag says, or else what the settings file says, or else its default. The
settings are then accepted or refused as they are, whatever layer each of them comes from, and what
has been accepted is refused nowhere else: not by the run, not where the level is named, and not
where the words of a command line are taken apart.

## Key results

- `exists_fields`: what a document says of each setting
- `Merged.apply`: flags over the settings of a document
- `validate_eq_ok_iff`: which settings are accepted
- `resolve_settled`: settings that are resolved cannot fail later
-/

namespace PolicyReplay

/-- The octets of a text are read as the text. -/
theorem Files.asText_encode (text : String) : asText (Text.encode text.toList) = .ok text := by
  rw [asText, Text.decode?_eq_some_iff.mpr rfl]
  exact congrArg Except.ok String.ofList_toList

namespace Settings

open Json (Raw Piece)

variable {α : Type} {name : String} {raw raw' document : Raw} {files : Files} {flags : Flags}
  {settings settings' : Settings} {level : Severity} {field : String → Option Raw}

/-! ## Documents -/

/-- What a document says of a setting: an object does so in a member with its name, and an array in
its place. -/
inductive Says : Raw → String → Raw → Prop where
  | member {members : List (List Piece × Raw)} {pieces : List Piece} {name : String} {raw : Raw}
    (hmember : (pieces, raw) ∈ members)
    (hname : (Json.resolve pieces).map String.ofList = some name) :
    Says (.object members) name raw
  | item {items : List Raw} {i : Nat} {name : String} {raw : Raw} (hname : names[i]? = some name)
    (hitem : items[i]? = some raw) : Says (.array items) name raw

/-- Texts are distinct if none of them is there twice. -/
theorem distinct_iff_nodup {texts : List String} : distinct texts = true ↔ texts.Nodup := by
  induction texts with
  | nil => simp [distinct]
  | cons text texts ih => simp [distinct, ih]

/-- The members that have been named are what an object says of settings. -/
theorem mem_namedMembers_iff {members : List (List Piece × Raw)} {named : List (String × Raw)}
    (h : namedMembers? members = some named) :
    (name, raw) ∈ named ↔ Says (.object members) name raw := by
  -- naming the members yields either a name for each of them or nothing at all
  have hmap := List.mapM_eq_some_iff.mp h
  have hmem : (name, raw) ∈ named ↔ some (name, raw) ∈ named.map some := by simp
  rw [hmem, ← hmap, List.mem_map]
  constructor
  -- a named member is one that says something under its name
  · rintro ⟨⟨pieces, value⟩, hmember, hnamed⟩
    obtain ⟨text, htext, heq⟩ := Option.map_eq_some_iff.mp hnamed
    obtain ⟨rfl, rfl⟩ := Prod.mk.inj heq
    exact .member hmember (by rw [htext]; rfl)
  -- and what is said stands in a member, which then has been named
  · rintro (⟨hmember, hname⟩)
    obtain ⟨text, htext, rfl⟩ := Option.map_eq_some_iff.mp hname
    refine ⟨_, hmember, ?_⟩
    show (Json.resolve _).map _ = _
    rw [htext]
    rfl

/-- The settings of a document are made of what it says of each of them. -/
theorem exists_fields (h : ofRaw? document = some settings) :
    ∃ field, ofFields? field = some settings ∧
      ∀ name ∈ names, ∀ raw, field name = some raw ↔ Says document name raw := by
  unfold ofRaw? at h
  -- the document is an object, an array, or nothing that settings can be made of
  split at h
  · obtain ⟨named, hnamed, h⟩ := Option.bind_eq_some_iff.mp h
    dsimp only at h
    split at h
    · rename_i hdistinct
      refine ⟨_, h, fun name hname raw => ?_⟩
      -- only members with a name of a setting are looked at, and no name is there twice
      rw [List.lookup_eq_some_iff_mem (distinct_iff_nodup.mp hdistinct), List.mem_filter,
        mem_namedMembers_iff hnamed]
      simpa using fun _ => hname
    · exact nomatch h
  · rename_i items
    split at h
    · refine ⟨_, h, fun name _ raw => ?_⟩
      -- the names of the settings go with the first items, so none of them is used twice
      have hnodup : ((names.zip items).map (·.1)).Nodup := by
        have hnames : names.Nodup := by decide
        rw [List.zip_eq_zip_take_min, List.map_fst_zip (by simp)]
        exact hnames.sublist (List.take_sublist _ _)
      rw [List.lookup_eq_some_iff_mem hnodup, List.mem_iff_getElem?]
      constructor
      -- the item at the place of a name is what the array says of it
      · rintro ⟨i, hi⟩
        obtain ⟨hname, hitem⟩ := List.getElem?_zip_eq_some.mp hi
        exact .item hname hitem
      · rintro (_ | ⟨hname, hitem⟩)
        exact ⟨_, List.getElem?_zip_eq_some.mpr ⟨hname, hitem⟩⟩
    · exact nomatch h
  · exact nomatch h

/-! ## Layers -/

/-- A setting is what a flag says, or else what is said of it elsewhere, or else its default. -/
inductive Layered (flag : Option α) (said : Raw → Prop) (decode : Raw → Option α) (default : α) :
    α → Prop where
  | flag {value : α} (hflag : flag = some value) : Layered flag said decode default value
  | file {value : α} {raw : Raw} (hflag : flag = none) (hsaid : said raw)
    (hdecode : decode raw = some value) : Layered flag said decode default value
  | default (hflag : flag = none) (hsilent : ∀ raw, ¬ said raw) :
    Layered flag said decode default default

/-- Layers determine a setting of which one thing is said at most. -/
theorem Layered.unique {flag : Option α} {said : Raw → Prop} {decode : Raw → Option α}
    {default value value' : α} (h : Layered flag said decode default value)
    (h' : Layered flag said decode default value')
    (hsaid : ∀ raw raw', said raw → said raw' → raw = raw') : value = value' := by
  -- case by the two layers: if they are different, what one of them needs excludes the other
  cases h with
  | flag hflag =>
    cases h' with
    | flag hflag' => exact Option.some.inj (hflag.symm.trans hflag')
    | file hflag' _ _ => exact nomatch hflag.symm.trans hflag'
    | default hflag' _ => exact nomatch hflag.symm.trans hflag'
  | file hflag hfile hdecode =>
    cases h' with
    | flag hflag' => exact nomatch hflag.symm.trans hflag'
    | file _ hfile' hdecode' =>
      -- both are decoded from what is said, and one thing is said at most
      rw [hsaid _ _ hfile hfile', hdecode'] at hdecode
      exact (Option.some.inj hdecode).symm
    | default _ hsilent => exact absurd hfile (hsilent _)
  | default hflag hsilent =>
    cases h' with
    | flag hflag' => exact nomatch hflag.symm.trans hflag'
    | file _ hfile' _ => exact absurd hfile' (hsilent _)
    | default _ _ => rfl

/-- A flag goes on top of the layers below. -/
theorem Layered.apply {said : Raw → Prop} {decode : Raw → Option α} {default value : α}
    (h : Layered none said decode default value) (flag : Option α) :
    Layered flag said decode default (flag.getD value) := by
  cases flag with
  | some value' => exact .flag rfl
  | none => exact h

/-- A flag for a setting that need not have a value. -/
theorem Layered.applySome {said : Raw → Prop} {decode : Raw → Option (Option α)}
    {default value : Option α} (h : Layered none said decode default value) (flag : Option α) :
    Layered (flag.map some) said decode default (flag <|> value) := by
  cases flag with
  | some value' => exact .flag rfl
  | none => exact h

/-- What is found below the flags is decoded, and otherwise the default is taken. -/
theorem Layered.of_value? {said : Raw → Prop} {decode : Raw → Option α} {default value : α}
    {found : Option Raw} (hfound : ∀ raw, found = some raw ↔ said raw)
    (h : value? decode default found = some value) : Layered none said decode default value := by
  cases found with
  | none =>
    obtain rfl := Option.some.inj h
    -- where nothing is found, nothing is said
    exact .default rfl fun raw hsaid => nomatch (hfound raw).mpr hsaid
  | some raw => exact .file rfl ((hfound raw).mp rfl) h

/-- Settings that come from flags, from what is said elsewhere and from the defaults. No flag sets
the log level. -/
structure Merged (flags : Flags) (said : String → Raw → Prop) (settings : Settings) : Prop where
  workload : Layered (flags.workload.map some) (said "workload") optionalText? none
    settings.workload
  traceFolder : Layered flags.traceFolder (said "trace_dir") text? "workload_traces"
    settings.traceFolder
  address : Layered flags.address (said "address") text? "127.0.0.1" settings.address
  port : Layered flags.port (said "port") (number? 0x10000) 1312 settings.port
  clients : Layered flags.clients (said "clients") (number? 0x10000000000000000) 1
    settings.clients
  valueSize : Layered flags.valueSize (said "value_size") (number? 0x10000000000000000) 1024
    settings.valueSize
  policy : Layered (flags.policy.map some) (said "policy") optionalText? none settings.policy
  spawn : Layered (flags.spawn.map some) (said "spawn") optionalText? none settings.spawn
  report : Layered (flags.report.map some) (said "report") optionalText? none settings.report
  logLevel : Layered none (said "log_level") text? "info" settings.logLevel

/-- Flags are put over settings that come from elsewhere. -/
theorem Merged.apply {said : String → Raw → Prop} (h : Merged {} said settings) (flags : Flags) :
    Merged flags said (settings.apply flags) where
  workload := h.workload.applySome flags.workload
  traceFolder := h.traceFolder.apply flags.traceFolder
  address := h.address.apply flags.address
  port := h.port.apply flags.port
  clients := h.clients.apply flags.clients
  valueSize := h.valueSize.apply flags.valueSize
  policy := h.policy.applySome flags.policy
  spawn := h.spawn.applySome flags.spawn
  report := h.report.applySome flags.report
  logLevel := h.logLevel

/-- There is one way to merge layers of which each says one thing of a setting at most. -/
theorem Merged.unique {said : String → Raw → Prop} (h : Merged flags said settings)
    (h' : Merged flags said settings')
    (hsaid : ∀ name ∈ names, ∀ raw raw', said name raw → said name raw' → raw = raw') :
    settings = settings' := by
  -- setting by setting: each is determined by its own layers
  have hone {name : String} (hname : name ∈ names) := hsaid name hname
  cases settings
  cases settings'
  rw [Settings.mk.injEq]
  exact ⟨h.workload.unique h'.workload (hone (by decide)),
    h.traceFolder.unique h'.traceFolder (hone (by decide)),
    h.address.unique h'.address (hone (by decide)), h.port.unique h'.port (hone (by decide)),
    h.clients.unique h'.clients (hone (by decide)),
    h.valueSize.unique h'.valueSize (hone (by decide)),
    h.policy.unique h'.policy (hone (by decide)), h.spawn.unique h'.spawn (hone (by decide)),
    h.report.unique h'.report (hone (by decide)),
    h.logLevel.unique h'.logLevel (hone (by decide))⟩

/-- Without flags the settings are what is said of them, or their defaults. -/
theorem merged_of_fields {said : String → Raw → Prop} (h : ofFields? field = some settings)
    (hsaid : ∀ name ∈ names, ∀ raw, field name = some raw ↔ said name raw) :
    Merged {} said settings := by
  -- the settings are decoded one after the other, so that each of them has been found or not
  simp only [ofFields?, Option.bind_eq_bind, Option.bind_eq_some_iff, Option.pure_def] at h
  obtain ⟨workload, hworkload, traceFolder, htraceFolder, address, haddress, port, hport, clients,
    hclients, valueSize, hvalueSize, policy, hpolicy, spawn, hspawn, report, hreport, logLevel,
    hlogLevel, h⟩ := h
  obtain rfl := Option.some.inj h
  exact ⟨.of_value? (hsaid _ (by decide)) hworkload, .of_value? (hsaid _ (by decide)) htraceFolder,
    .of_value? (hsaid _ (by decide)) haddress, .of_value? (hsaid _ (by decide)) hport,
    .of_value? (hsaid _ (by decide)) hclients, .of_value? (hsaid _ (by decide)) hvalueSize,
    .of_value? (hsaid _ (by decide)) hpolicy, .of_value? (hsaid _ (by decide)) hspawn,
    .of_value? (hsaid _ (by decide)) hreport, .of_value? (hsaid _ (by decide)) hlogLevel⟩

/-! ## What is accepted -/

/-- Settings with which a run can be made, at a level. -/
structure Runnable (settings : Settings) (level : Severity) : Prop where
  workload : ∃ name, settings.workload = some name ∧ Text.isBlankText name.toList = false
  clients : 0 < settings.clients
  port : 0 < settings.port
  address : Text.isBlankText settings.address.toList = false
  spawn : ∀ line, settings.spawn = some line → Text.isBlankText line.toList = false
  level : Severity.parse settings.logLevel = .ok level

/-- A command line has no words if it is blank. -/
theorem commandWords_eq_nil_iff {line : String} :
    commandWords line = [] ↔ Text.isBlankText line.toList = true := by
  rw [commandWords, List.map_eq_nil_iff, ← not_iff_not, Bool.not_eq_true]
  exact Text.words_ne_nil_iff

/-- A setting that must be there is there and not blank. -/
theorem isMissing_eq_false_iff {text : Option String} :
    isMissing text = false ↔ ∃ s, text = some s ∧ Text.isBlankText s.toList = false := by
  cases text with
  | none => simp [isMissing]
  | some s => simp [isMissing]

/-- A command line that is given is not blank. -/
theorem any_isEmpty_eq_false_iff {spawn : Option String} :
    (spawn.any fun line => (commandWords line).isEmpty) = false ↔
      ∀ line, spawn = some line → Text.isBlankText line.toList = false := by
  cases spawn with
  | none => simp
  | some line => simp [← Bool.not_eq_true, commandWords_eq_nil_iff]

/-- Validation accepts exactly the settings with which a run can be made. -/
theorem validate_eq_ok_iff : settings.validate = .ok level ↔ Runnable settings level := by
  unfold validate
  constructor
  -- each check that is passed is one part of what a run needs, in the order of the checks
  · intro h
    split at h
    · exact nomatch h
    rename_i hworkload
    split at h
    · exact nomatch h
    rename_i hclients
    split at h
    · exact nomatch h
    rename_i hport
    split at h
    · exact nomatch h
    rename_i haddress
    split at h
    · exact nomatch h
    rename_i hspawn
    exact ⟨isMissing_eq_false_iff.mp (Bool.not_eq_true _ ▸ hworkload),
      Nat.pos_of_ne_zero hclients, Nat.pos_of_ne_zero hport, Bool.not_eq_true _ ▸ haddress,
      any_isEmpty_eq_false_iff.mp (Bool.not_eq_true _ ▸ hspawn), Except.mapError_eq_ok_iff.mp h⟩
  -- and each part of it passes its check
  · rintro ⟨hworkload, hclients, hport, haddress, hspawn, hlevel⟩
    rw [isMissing_eq_false_iff.mpr hworkload, if_neg Bool.false_ne_true,
      if_neg (Nat.ne_of_gt hclients), if_neg (Nat.ne_of_gt hport), haddress,
      if_neg Bool.false_ne_true, any_isEmpty_eq_false_iff.mpr hspawn, if_neg Bool.false_ne_true]
    exact Except.mapError_eq_ok_iff.mpr hlevel

/-! ## What is accepted does not fail later -/

/-- The words of a command line that is not blank start with a program. -/
theorem exists_program {line : String} (h : Text.isBlankText line.toList = false) :
    ∃ program arguments, commandWords line = program :: arguments ∧ program ≠ "" := by
  -- without a word the line would be blank
  cases hwords : commandWords line with
  | nil =>
    rw [commandWords_eq_nil_iff.mp hwords] at h
    exact nomatch h
  | cons program arguments =>
    have hmem : program ∈ commandWords line := hwords ▸ List.mem_cons_self
    obtain ⟨word, hword, rfl⟩ := List.mem_map.mp hmem
    -- a word is never empty
    refine ⟨_, arguments, rfl, ?_⟩
    simpa using (Text.mem_words_iff.mp hword).2

/-- Settings with which a run can be made are a configuration of one. -/
theorem Runnable.validate_config (h : Runnable settings level) :
    settings.config.validate = .ok () := by
  -- the workload that is there is the one of the configuration, where the default is not used
  obtain ⟨name, hname, hblank⟩ := h.workload
  have hworkload : settings.config.workload = name := by rw [config, hname, Option.getD_some]
  rw [Run.Config.validate, hworkload, hblank, if_neg Bool.false_ne_true,
    if_neg (Nat.ne_of_gt (show 0 < settings.config.clients from h.clients))]

/-- A program stands in for the network exactly if there is a command line for it. -/
theorem Runnable.processEndpoint?_isSome_iff (h : Runnable settings level) :
    settings.processEndpoint?.isSome ↔ settings.spawn.isSome := by
  cases hspawn : settings.spawn with
  | none => simp [processEndpoint?, hspawn]
  | some line =>
    -- a command line that is given names a program, so there is an endpoint of it
    obtain ⟨program, arguments, hwords, -⟩ := exists_program (h.spawn line hspawn)
    simp [processEndpoint?, hspawn, hwords, Endpoint.ofWords?]

/-- The program that stands in for the network is the first word of the command line. -/
theorem Runnable.endpoint_of_spawn (h : Runnable settings level) {line : String}
    (hspawn : settings.spawn = some line) :
    ∃ program arguments, program ≠ "" ∧ commandWords line = program :: arguments ∧
      settings.endpoint = .process program arguments := by
  obtain ⟨program, arguments, hwords, hprogram⟩ := exists_program (h.spawn line hspawn)
  refine ⟨program, arguments, hprogram, hwords, ?_⟩
  -- the network is used only where there is no such endpoint
  rw [endpoint, processEndpoint?, hspawn, Option.bind_some, hwords]
  rfl

/-! ## Resolving -/

/-- What the settings file says, if one is named. It is read, and it is a document of settings. -/
inductive Documented (files : Files) (flags : Flags) : Option Raw → Prop where
  | absent (hflag : flags.settings = none) : Documented files flags none
  | read {path text : String} {document : Raw} {settings : Settings}
    (hflag : flags.settings = some path) (htext : files.readText path = .ok text)
    (hparse : Raw.parse? text.toList = some document)
    (hsettings : ofRaw? document = some settings) :
    Documented files flags (some document)

/-- What is said of a setting in a document, if there is one. -/
def Said (document : Option Raw) (name : String) (raw : Raw) : Prop :=
  ∃ written, document = some written ∧ Says written name raw

/-- A settings file that can be read and decoded yields the settings from which resolving starts. -/
theorem base_of_document {path text : String} (hflag : flags.settings = some path)
    (htext : files.readText path = .ok text) (hparse : Raw.parse? text.toList = some document)
    (hsettings : ofRaw? document = some settings) (least : Severity) :
    ((base files flags).run least).2 = .ok settings := by
  rw [base, hflag]
  show ((load files path).run least).2 = .ok settings
  unfold load
  rw [htext]
  dsimp only
  rw [hparse, Option.bind_some, hsettings]
  rfl

/-- Behind the settings file there is no way to fail but that of validation. -/
theorem resolve_of_base {least : Severity} (h : ((base files flags).run least).2 = .ok settings) :
    ((resolve files flags).run least).2 =
      (settings.apply flags).validate.map (settings.apply flags, ·) := by
  rw [resolve, Logging.run_bind, h]
  rfl

/-- Before any flag the settings are what the file says, which says one thing of each at most. -/
theorem merged_base {document : Option Raw} (h : Documented files flags document)
    (least : Severity) :
    (∃ settings, ((base files flags).run least).2 = .ok settings ∧
      Merged {} (Said document) settings) ∧
    ∀ name ∈ names, ∀ raw raw', Said document name raw → Said document name raw' → raw = raw' := by
  cases h with
  -- without a file nothing is said, and each setting has its default
  | absent hflag =>
    have hsilent (name : String) (raw : Raw) : ¬ Said none name raw := fun ⟨_, h, _⟩ => nomatch h
    have hdefaults : ofFields? (fun _ => none) = some {} := rfl
    refine ⟨⟨{}, by rw [base, hflag]; rfl, merged_of_fields hdefaults fun name _ raw => ?_⟩,
      fun name _ raw raw' hraw _ => absurd hraw (hsilent name raw)⟩
    exact iff_of_false nofun (hsilent name raw)
  -- with a file, each setting is found in it exactly if the file says something of it
  | @read path text document settings hflag htext hparse hsettings =>
    obtain ⟨field, hfields, hfield⟩ := exists_fields hsettings
    have hsaid : ∀ name ∈ names, ∀ raw, field name = some raw ↔ Said (some document) name raw := by
      intro name hname raw
      rw [hfield name hname raw]
      exact ⟨fun h => ⟨document, rfl, h⟩, fun ⟨_, heq, h⟩ => Option.some.inj heq ▸ h⟩
    refine ⟨⟨settings, base_of_document hflag htext hparse hsettings least,
      merged_of_fields hfields hsaid⟩, fun name hname raw raw' hraw hraw' => ?_⟩
    -- what is said of a setting is found, and only one thing is
    have heq := (hsaid name hname raw).mpr hraw
    rw [(hsaid name hname raw').mpr hraw'] at heq
    exact (Option.some.inj heq).symm

/-- The settings that are resolved are merged from the flags, the settings file and the defaults,
and it depends on the merged settings alone whether they are accepted. Those that are accepted are a
configuration of a run, name a log level, and have a program to stand in for the network exactly if
there is a command line for it, which starts with the program. -/
theorem resolve_settled {document : Option Raw} (h : Documented files flags document)
    (least : Severity) :
    ∃ merged, Merged flags (Said document) merged ∧
      (∀ settings, Merged flags (Said document) settings → settings = merged) ∧
      (∀ settings level, ((resolve files flags).run least).2 = .ok (settings, level) ↔
        settings = merged ∧ Runnable merged level) ∧
      ∀ settings level, ((resolve files flags).run least).2 = .ok (settings, level) →
        settings.config.validate = .ok () ∧ Severity.parse settings.logLevel = .ok level ∧
        (settings.processEndpoint?.isSome ↔ settings.spawn.isSome) ∧
        ∀ line, settings.spawn = some line → ∃ program arguments, program ≠ "" ∧
          commandWords line = program :: arguments ∧
          settings.endpoint = .process program arguments := by
  -- the settings file comes first, and the flags are put over what it says
  obtain ⟨⟨base, hbase, hmerged⟩, hsaid⟩ := merged_base h least
  have hmerged := hmerged.apply flags
  -- what is resolved is merged, and accepted by validation
  have haccept : ∀ settings level,
      ((resolve files flags).run least).2 = .ok (settings, level) ↔
        settings = base.apply flags ∧ Runnable (base.apply flags) level := by
    intro settings level
    rw [resolve_of_base hbase, Except.map_eq_ok_iff]
    constructor
    · rintro ⟨level', hvalid, heq⟩
      obtain ⟨rfl, rfl⟩ := Prod.mk.inj heq
      exact ⟨rfl, validate_eq_ok_iff.mp hvalid⟩
    · rintro ⟨rfl, hrunnable⟩
      exact ⟨level, validate_eq_ok_iff.mpr hrunnable, rfl⟩
  -- two ways of merging agree, since every layer says one thing of a setting at most
  refine ⟨_, hmerged, fun settings hsettings => hsettings.unique hmerged hsaid, haccept,
    fun settings level hsettings => ?_⟩
  obtain ⟨rfl, hrunnable⟩ := (haccept settings level).mp hsettings
  -- everything later follows from what validation has accepted
  exact ⟨hrunnable.validate_config, hrunnable.level, hrunnable.processEndpoint?_isSome_iff,
    fun line hspawn => hrunnable.endpoint_of_spawn hspawn⟩

/-- A settings file with which no run can be made as it is. -/
def unfitFile : String :=
  "\x7b\"workload\": \" \", \"clients\": 0, \"port\": 0, \"spawn\": \" sh  ctl.sh\", " ++
    "\"log_level\": \"Warning\"\x7d"

/-- Flags that make it good. -/
def fittingFlags : Flags where
  workload := some "w"
  port := some 7
  clients := some 2
  settings := some "s.json"

/-- The flags make good what the settings file says of the workload, the port and the clients. -/
theorem resolve_settled_overridden :
    let files : Files := ⟨fun _ => .ok (Text.encode unfitFile.toList), fun _ => .ok [],
      fun _ _ => .ok ()⟩
    let settled : Settings :=
      { workload := some "w", port := 7, clients := 2, spawn := some " sh  ctl.sh",
        logLevel := "Warning" }
    ((resolve files fittingFlags).run .info).2 = .ok (settled, .warn) ∧
      settled.config.validate = .ok () ∧
      ∃ program arguments, program ≠ "" ∧
        commandWords " sh  ctl.sh" = program :: arguments ∧
        settled.endpoint = .process program arguments := by
  intro files settled
  have hread : files.readText "s.json" = .ok unfitFile := Files.asText_encode unfitFile
  let written : Settings :=
    { workload := some " ", port := 0, clients := 0, spawn := some " sh  ctl.sh",
      logLevel := "Warning" }
  -- the file is decoded by computation, and it is not a configuration with which a run can be made
  have hwritten : (Raw.parse? unfitFile.toList).bind ofRaw? = some written := by decide +kernel
  obtain ⟨document, hparse, hsettings⟩ := Option.bind_eq_some_iff.mp hwritten
  have hdocument : Documented files fittingFlags (some document) :=
    .read rfl hread hparse hsettings
  obtain ⟨merged, -, -, -, hlater⟩ := resolve_settled hdocument .info
  have hresolve : ((resolve files fittingFlags).run .info).2 = .ok (settled, .warn) := by
    -- with the flags it is one
    have hrunnable : Runnable settled .warn :=
      ⟨⟨"w", rfl, by decide⟩, by decide, by decide, by decide,
        fun line hline => Option.some.inj hline ▸ by decide, by decide⟩
    rw [resolve_of_base (base_of_document rfl hread hparse hsettings .info)]
    show (settled.validate).map (settled, ·) = _
    rw [validate_eq_ok_iff.mpr hrunnable]
    rfl
  obtain ⟨hvalid, -, -, hspawn⟩ := hlater settled .warn hresolve
  exact ⟨hresolve, hvalid, hspawn _ rfl⟩

end Settings

end PolicyReplay
