import PolicyReplay.CommandLine.Perform
import PolicyReplay.Proofs.Log.Filtering
import PolicyReplay.Proofs.Run.Preparation

/-!
# Policy documents and what is wrong with them

A document yields a setup command exactly if it has a session key and a default policy that is an
object. A document that yields none lacks a mandatory member or has a default policy of another
kind, and whoever asked for the command says which of the two it is.

## Key results

- `mem_missingKeys_iff`: a mandatory member is missed exactly if it is not there
- `documentArguments_eq_ok_iff`, `documentArguments_eq_error_iff`: the members as arguments
- `compile_eq_error_iff`: why there is no command
- `Diagnosed.of_compile`: what is said of a document follows from what it is compiled to
- `document_judged`: the command, the entry in the log, and both complaints
-/

namespace PolicyReplay.Setup

variable {document : Json} {members spliced : List (String × Json)} {key : String}
  {command : Command} {skip : Skip}

/-! ## What is said of a document -/

/-- A document is an object with this member. -/
def Holds (document : Json) (key : String) (value : Json) : Prop :=
  ∃ members, document = .object members ∧ (key, value) ∈ members

/-- The members of a document with those of the default policy in its place. -/
inductive Spliced : List (String × Json) → List (String × Json) → Prop where
  | nil : Spliced [] []
  | kept {name : String} {value : Json} {members spliced : List (String × Json)}
    (hname : name ≠ defaultPolicyKey) (hrest : Spliced members spliced) :
    Spliced ((name, value) :: members) ((name, value) :: spliced)
  | inPlace {fields members spliced : List (String × Json)} (hrest : Spliced members spliced) :
    Spliced ((defaultPolicyKey, .object fields) :: members) (fields ++ spliced)

/-- All mandatory members are there, but the default policy is no object. -/
structure Misshapen (document : Json) : Prop where
  present : ∀ key ∈ mandatoryKeys, ∃ value, Holds document key value
  shape : ∃ value, Holds document defaultPolicyKey value ∧ ∀ fields, value ≠ .object fields

/-- What is complained of in a document, with the words for either case. -/
structure Diagnosed (document : Json) (misshapen : String) (lacking : List String → String)
    (complaint : Option String) : Prop where
  /-- Nothing is said of a document that yields a command. -/
  silent : complaint = none ↔ ∃ command, compile document = .ok command
  misshapen : complaint = some misshapen ↔ Misshapen document
  /-- Missing members are named, and then nothing is said of the default policy. -/
  lacking : missingKeys document ≠ [] → complaint = some (lacking (missingKeys document))

/-! ## Missing members -/

/-- A member is missing exactly if there is none of its name. -/
theorem isNone_member?_iff :
    (Json.member? key members).isNone = true ↔ ∀ value, (key, value) ∉ members := by
  rw [Option.isNone_iff_eq_none, Json.member?, List.lookup_eq_none_iff]
  constructor
  · intro h value hmem
    exact absurd rfl (bne_iff_ne.mp (h _ hmem))
  · rintro h ⟨name, value⟩ hmem
    refine bne_iff_ne.mpr ?_
    rintro rfl
    exact h value hmem

/-- A mandatory member is missed exactly if it is not there. -/
theorem mem_missingKeys_iff :
    key ∈ missingKeys document ↔ key ∈ mandatoryKeys ∧ ∀ value, ¬ Holds document key value := by
  unfold missingKeys
  split
  -- an object is searched for each mandatory member, and all else has no member at all
  · rename_i members
    rw [List.mem_filter, isNone_member?_iff]
    simp [Holds]
  · rename_i hobject
    refine (and_iff_left ?_).symm
    rintro value ⟨members, rfl, -⟩
    exact hobject members rfl

/-- The members that are missed are told in the order in which they are asked for. -/
theorem missingKeys_sublist (document : Json) : (missingKeys document).Sublist mandatoryKeys := by
  unfold missingKeys
  split
  · exact List.filter_sublist
  · exact .refl _

/-- A document that is no object lacks all mandatory members. -/
theorem missingKeys_of_ne_object (h : ∀ members, document ≠ .object members) :
    missingKeys document = mandatoryKeys := by
  unfold missingKeys
  split
  · exact absurd rfl (h _)
  · rfl

/-- Nothing is missed exactly if all mandatory members are there. -/
theorem missingKeys_eq_nil_iff :
    missingKeys document = [] ↔ ∀ key ∈ mandatoryKeys, ∃ value, Holds document key value := by
  rw [List.eq_nil_iff_forall_not_mem]
  simp only [mem_missingKeys_iff, not_and, not_forall, not_not]

/-- Only an object misses nothing. -/
theorem exists_object (h : missingKeys document = []) : ∃ members, document = .object members := by
  obtain ⟨value, members, hobject, -⟩ :=
    missingKeys_eq_nil_iff.mp h defaultPolicyKey (by decide)
  exact ⟨members, hobject⟩

/-! ## Members as arguments -/

/-- The arguments of members one behind the other are their arguments one behind the other. -/
theorem arguments_append (before after : List (String × Json)) :
    arguments (before ++ after) = arguments before ++ arguments after :=
  List.flatMap_append

/-- The arguments of a document are those of its members, with the default policy spliced in. -/
theorem documentArguments_eq_ok_iff {text : List Char} :
    documentArguments members = .ok text ↔
      ∃ spliced, Spliced members spliced ∧ arguments spliced = text := by
  fun_induction documentArguments members generalizing text with
  -- along the definition: no member, a default policy that is an object or not, another member
  | case1 =>
    constructor
    · intro h
      exact ⟨[], .nil, Except.ok.inj h⟩
    · rintro ⟨spliced, ⟨⟩, rfl⟩
      rfl
  | case2 rest fields ih =>
    rw [Except.map_eq_ok_iff]
    constructor
    · rintro ⟨others, hothers, rfl⟩
      obtain ⟨spliced, hspliced, rfl⟩ := ih.mp hothers
      exact ⟨_, .inPlace hspliced, arguments_append fields spliced⟩
    · rintro ⟨spliced, hspliced, rfl⟩
      cases hspliced with
      | kept hname hrest => exact absurd rfl hname
      | inPlace hrest => exact ⟨_, ih.mpr ⟨_, hrest, rfl⟩, (arguments_append _ _).symm⟩
  | case3 value rest hvalue =>
    constructor
    · intro h
      cases h
    · rintro ⟨spliced, hspliced, -⟩
      cases hspliced with
      | kept hname hrest => exact absurd rfl hname
      | inPlace hrest => exact absurd rfl (hvalue _)
  | case4 name value rest hname ih =>
    rw [Except.map_eq_ok_iff]
    constructor
    · rintro ⟨others, hothers, rfl⟩
      obtain ⟨spliced, hspliced, rfl⟩ := ih.mp hothers
      exact ⟨_, .kept hname hspliced, rfl⟩
    · rintro ⟨spliced, hspliced, rfl⟩
      cases hspliced with
      | kept _ hrest => exact ⟨_, ih.mpr ⟨_, hrest, rfl⟩, rfl⟩
      | inPlace hrest => exact absurd rfl hname

/-- The arguments cannot be had exactly if a default policy is no object, wherever it stands. -/
theorem documentArguments_eq_error_iff :
    documentArguments members = .error skip ↔ skip = .defaultPolicyNotObject ∧
      ∃ value, (defaultPolicyKey, value) ∈ members ∧ ∀ fields, value ≠ .object fields := by
  fun_induction documentArguments members with
  -- only the first default policy that is no object stops the reading, and all stop it alike
  | case1 => simp
  | case2 rest fields ih =>
    rw [Except.map_eq_error_iff, ih]
    simp
  | case3 value rest hvalue =>
    rw [Except.error.injEq]
    exact ⟨fun h => ⟨h.symm, value, List.mem_cons_self, hvalue⟩, fun h => h.1.symm⟩
  | case4 name value rest hname ih =>
    rw [Except.map_eq_error_iff, ih]
    simp [Ne.symm hname]

/-! ## The setup command -/

/-- With all mandatory members, it is the arguments that decide. -/
theorem compile_object (h : missingKeys (.object members) = []) :
    compile (.object members) =
      (documentArguments members).map fun text => ⟨"user_policy" ++ String.ofList text⟩ := by
  unfold compile
  split
  · rename_i heq _
    rw [Json.object.inj heq]
  · rename_i hlacking
    exact absurd h (hlacking members rfl)

/-- With a mandatory member missing there is no command, whatever else there is. -/
theorem compile_of_lacking (h : missingKeys document ≠ []) :
    compile document = .error (.missingKeys (missingKeys document)) := by
  unfold compile
  split
  · exact absurd ‹_› h
  · rfl

/-- The setup command of a document that has one. -/
theorem compile_eq_ok_iff :
    compile document = .ok command ↔ missingKeys document = [] ∧
      ∃ members spliced, document = .object members ∧ Spliced members spliced ∧
        command.text = "user_policy" ++ String.ofList (arguments spliced) := by
  -- with nothing missing the document is an object, and its arguments decide
  by_cases hmissing : missingKeys document = []
  · obtain ⟨members, rfl⟩ := exists_object hmissing
    rw [compile_object hmissing, Except.map_eq_ok_iff, and_iff_right hmissing]
    constructor
    · rintro ⟨text, htext, rfl⟩
      obtain ⟨spliced, hspliced, rfl⟩ := documentArguments_eq_ok_iff.mp htext
      exact ⟨members, spliced, rfl, hspliced, rfl⟩
    · rintro ⟨members', spliced, heq, hspliced, htext⟩
      obtain rfl := Json.object.inj heq
      refine ⟨_, documentArguments_eq_ok_iff.mpr ⟨spliced, hspliced, rfl⟩, ?_⟩
      rw [← htext]
  · rw [compile_of_lacking hmissing]
    simp [hmissing]

/-- Why there is no setup command: missing members are told before a default policy that is no
object. -/
theorem compile_eq_error_iff :
    compile document = .error skip ↔
      (missingKeys document ≠ [] ∧ skip = .missingKeys (missingKeys document)) ∨
        (Misshapen document ∧ skip = .defaultPolicyNotObject) := by
  -- the two reasons exclude each other: the arguments are looked at if nothing is missing
  by_cases hmissing : missingKeys document = []
  · have hpresent := missingKeys_eq_nil_iff.mp hmissing
    obtain ⟨members, rfl⟩ := exists_object hmissing
    have hholds (value : Json) :
        Holds (.object members) defaultPolicyKey value ↔ (defaultPolicyKey, value) ∈ members := by
      simp [Holds]
    rw [compile_object hmissing, Except.map_eq_error_iff, documentArguments_eq_error_iff]
    constructor
    · rintro ⟨rfl, value, hmem, hvalue⟩
      exact .inr ⟨⟨hpresent, value, (hholds value).mpr hmem, hvalue⟩, rfl⟩
    · rintro (⟨hlacking, -⟩ | ⟨⟨-, value, hmem, hvalue⟩, rfl⟩)
      · exact absurd hmissing hlacking
      · exact ⟨rfl, value, (hholds value).mp hmem, hvalue⟩
  · rw [compile_of_lacking hmissing, Except.error.injEq]
    constructor
    · rintro rfl
      exact .inl ⟨hmissing, rfl⟩
    · rintro (⟨-, rfl⟩ | ⟨hmisshapen, -⟩)
      · rfl
      · exact absurd (missingKeys_eq_nil_iff.mpr hmisshapen.present) hmissing

/-- There is a setup command exactly if both members are there and the default policy is an
object. -/
theorem exists_compile_eq_ok_iff :
    (∃ command, compile document = .ok command) ↔
      (∀ key ∈ mandatoryKeys, ∃ value, Holds document key value) ∧
        ∀ value, Holds document defaultPolicyKey value → ∃ fields, value = .object fields := by
  constructor
  · rintro ⟨command, hcommand⟩
    have hpresent := missingKeys_eq_nil_iff.mp (compile_eq_ok_iff.mp hcommand).1
    refine ⟨hpresent, fun value hvalue => ?_⟩
    by_contra hobject
    -- then the document would be refused
    have herror := compile_eq_error_iff.mpr (.inr
      ⟨⟨hpresent, value, hvalue, not_exists.mp hobject⟩, rfl⟩)
    rw [hcommand] at herror
    exact nomatch herror
  · rintro ⟨hpresent, hobject⟩
    cases hcompile : compile document with
    | ok command => exact ⟨command, rfl⟩
    | error skip =>
      rcases compile_eq_error_iff.mp hcompile with ⟨hlacking, -⟩ | ⟨⟨-, value, hvalue, hne⟩, -⟩
      · exact absurd (missingKeys_eq_nil_iff.mpr hpresent) hlacking
      · obtain ⟨fields, hfields⟩ := hobject value hvalue
        exact absurd hfields (hne fields)

/-! ## Complaints -/

/-- The complaint that goes with the outcome of compiling a document. -/
def complaint? (misshapen : String) (lacking : List String → String) :
    Except Skip Command → Option String
  | .ok _ => none
  | .error .defaultPolicyNotObject => some misshapen
  | .error (.missingKeys keys) => some (lacking keys)

/-- What is said of a document follows from what it is compiled to, if the words differ. -/
theorem Diagnosed.of_compile {misshapen : String} {lacking : List String → String}
    (hwords : ∀ keys, lacking keys ≠ misshapen) :
    Diagnosed document misshapen lacking (complaint? misshapen lacking (compile document)) := by
  -- the words differ, so they tell the two reasons apart
  refine ⟨?_, ?_, fun hlacking => by rw [compile_of_lacking hlacking]; rfl⟩
  · cases compile document with
    | ok command => simp [complaint?]
    | error skip => cases skip <;> simp [complaint?]
  · have hskip : Misshapen document ↔ compile document = .error .defaultPolicyNotObject := by
      simp [compile_eq_error_iff]
    rw [hskip]
    cases compile document with
    | ok command => simp [complaint?]
    | error skip =>
      cases skip with
      | missingKeys keys => simp [complaint?, hwords keys]
      | defaultPolicyNotObject => simp [complaint?]

/-- What a run complains of when its policy is prepared. -/
def ofPreparation : Except Run.Error (Option Command) → Option String
  | .ok _ => none
  | .error e => some e.message

/-- What a request complains of. -/
def ofEnding : CommandLine.Ending → Option String
  | .failed e => some e.message
  | _ => none

/-- Texts that differ within the first characters of one of them. -/
theorem append_ne_of_take {front rest other : String} (count : Nat)
    (hcount : count ≤ front.toList.length) (h : front.toList.take count ≠ other.toList.take count) :
    front ++ rest ≠ other := by
  rintro rfl
  rw [String.toList_append, List.take_append_of_le_length hcount] at h
  exact h rfl

/-- A run that prepares its policy complains of the document, and names it. -/
theorem diagnosed_preparePolicy {files : Files} {config : Run.Config} {path : String}
    (hpolicy : config.policy = some path) (hread : Policy.read files path = .ok document)
    (least : Severity) :
    Diagnosed document
      ("invalid configuration: " ++ (path ++ ": default_policy must be an object"))
      (fun keys => "invalid configuration: " ++
        (path ++ ": missing mandatory keys " ++ String.intercalate ", " keys))
      (ofPreparation ((Run.preparePolicy files config).run least).2) := by
  have hcomplaint : ofPreparation ((Run.preparePolicy files config).run least).2 =
      complaint? ("invalid configuration: " ++ (path ++ ": default_policy must be an object"))
        (fun keys => "invalid configuration: " ++
          (path ++ ": missing mandatory keys " ++ String.intercalate ", " keys))
        (compile document) := by
    -- the run compiles the document, and each outcome is told in its own words
    rw [Run.run_preparePolicy, hpolicy]
    simp only [hread]
    rcases compile document with (keys | _) | command <;> rfl
  rw [hcomplaint]
  refine .of_compile fun keys h => ?_
  -- behind the path the two texts differ in their third character
  simp only [String.append_assoc, String.append_right_inj] at h
  exact append_ne_of_take 3 (by decide) (by decide) h

/-- The command that compiles a policy complains of the document. -/
theorem diagnosed_performPolicy {σ : Type} {world : CommandLine.World σ} {path : String}
    (hread : Policy.read world.files path = .ok document) (least : Severity) :
    Diagnosed document "default_policy must be an object"
      (fun keys => "missing mandatory keys: " ++ String.intercalate ", " keys)
      (ofEnding ((CommandLine.performPolicy world path).run least).2.ending) := by
  have hcomplaint : ofEnding ((CommandLine.performPolicy world path).run least).2.ending =
      complaint? "default_policy must be an object"
        (fun keys => "missing mandatory keys: " ++ String.intercalate ", " keys)
        (compile document) := by
    -- the command line has its own words for the same outcomes
    rw [CommandLine.performPolicy]
    simp only [hread, Logging.run_bind, compileLogged]
    rcases compile document with (keys | _) | command <;> rfl
  rw [hcomplaint]
  exact .of_compile fun keys => append_ne_of_take 1 (by decide) (by decide)

/-! ## All of it -/

/-- The entry that tells what a document is compiled to. -/
def entryOf : Except Skip Command → Log.Entry
  | .ok command => Log.Event.entry .policyCompiled [("command", command.text)]
  | .error skip => Log.Event.entry .policySkipped skip.fields

/-- Compiling a document logs one entry. -/
theorem run_compileLogged (document : Json) (least : Severity) :
    (compileLogged document).run least =
      (Log.atLeast least [entryOf (compile document)], compile document) := by
  have hwrite (entry : Log.Entry) :
      (if least ≤ entry.severity then [entry] else []) ++ [] = Log.atLeast least [entry] := by
    rw [Log.atLeast, List.filter_singleton, List.append_nil]
    simp
  simp only [compileLogged]
  -- one entry is written for either outcome
  cases compile document with
  | ok command => exact congrArg (·, _) (hwrite _)
  | error skip => exact congrArg (·, _) (hwrite _)

/-- What becomes of a document, what is logged about it, and what is complained of. -/
structure Judged (document : Json) : Prop where
  /-- There is a command exactly if both mandatory members are there and the default policy is an
  object. -/
  accepted : (∃ command, compile document = .ok command) ↔
    (∃ value, Holds document "sessionKey" value) ∧
      (∃ value, Holds document "default_policy" value) ∧
      ∀ value, Holds document "default_policy" value → ∃ fields, value = .object fields
  /-- It names each member and its text, in the order of the document, where the members of the
  default policy take its place. -/
  command : ∀ command, compile document = .ok command → ∃ members spliced,
    document = .object members ∧ Spliced members spliced ∧
      command.text.toList = "user_policy".toList ++
        spliced.flatMap fun member => " -".toList ++ member.1.toList ++ ' ' :: valueText member.2
  /-- One entry is logged: the command, or that there is none. -/
  logged : ∃ entry,
    (∀ least, (compileLogged document).run least =
      (Log.atLeast least [entry], compile document)) ∧
    (∀ command, compile document = .ok command →
      entry = Log.Event.entry .policyCompiled [("command", command.text)]) ∧
    ∀ skip, compile document = .error skip → ∃ fields,
      entry = Log.Event.entry .policySkipped fields
  /-- The mandatory members that are missed are those that are not there, in their order. -/
  missed : (missingKeys document).Sublist ["sessionKey", "default_policy"] ∧
    ∀ key ∈ ["sessionKey", "default_policy"],
      (key ∈ missingKeys document ↔ ∀ value, ¬ Holds document key value)
  /-- A document that is no object misses both. -/
  objectless : (∀ members, document ≠ .object members) →
    missingKeys document = ["sessionKey", "default_policy"]
  /-- There is no command because members are missed or else because of the default policy. -/
  refused : ∀ skip, compile document = .error skip ↔
    (missingKeys document ≠ [] ∧ skip = .missingKeys (missingKeys document)) ∨
      (Misshapen document ∧ skip = .defaultPolicyNotObject)
  /-- A run that is given the document complains of it accordingly. -/
  prepared : ∀ files (config : Run.Config) path least, config.policy = some path →
    Policy.read files path = .ok document →
    Diagnosed document
      ("invalid configuration: " ++ (path ++ ": default_policy must be an object"))
      (fun keys => "invalid configuration: " ++
        (path ++ ": missing mandatory keys " ++ String.intercalate ", " keys))
      (ofPreparation ((Run.preparePolicy files config).run least).2)
  /-- And so does the command that compiles it. -/
  performed : ∀ (σ : Type) (world : CommandLine.World σ) path least,
    Policy.read world.files path = .ok document →
    Diagnosed document "default_policy must be an object"
      (fun keys => "missing mandatory keys: " ++ String.intercalate ", " keys)
      (ofEnding ((CommandLine.performPolicy world path).run least).2.ending)

/-- Every document is compiled, logged and complained of by what it holds. -/
theorem document_judged (document : Json) : Judged document where
  accepted := by
    -- the mandatory members are two, so the claims for each of them are the two that are asked for
    rw [exists_compile_eq_ok_iff, ← and_assoc]
    refine and_congr_left' ?_
    simp [mandatoryKeys, defaultPolicyKey]
  command command hcommand := by
    obtain ⟨-, members, spliced, hobject, hspliced, htext⟩ := compile_eq_ok_iff.mp hcommand
    refine ⟨members, spliced, hobject, hspliced, ?_⟩
    have harguments : (String.ofList (arguments spliced)).toList = arguments spliced :=
      String.toList_ofList
    rw [htext, String.toList_append, harguments]
    rfl
  logged := by
    refine ⟨_, run_compileLogged document, fun command hcommand => ?_, fun skip hskip => ?_⟩
    · rw [hcommand, entryOf]
    · exact ⟨skip.fields, by rw [hskip, entryOf]⟩
  missed := by
    refine ⟨missingKeys_sublist document, fun key hkey => ?_⟩
    rw [mem_missingKeys_iff]
    exact and_iff_right hkey
  objectless := missingKeys_of_ne_object
  refused skip := compile_eq_error_iff
  prepared files config path least hpolicy hread := diagnosed_preparePolicy hpolicy hread least
  performed σ world path least hread := diagnosed_performPolicy hread least

end PolicyReplay.Setup
