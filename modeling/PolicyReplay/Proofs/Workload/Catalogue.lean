import Mathlib.Data.List.Sort
import PolicyReplay.Proofs.Files.Listing
import PolicyReplay.Proofs.Text.Order
import PolicyReplay.Workload

/-!
# The catalogue of a folder

The names in the catalogue are those of the run traces in the folder, each of them once, in the
order of their octets, whatever the order in which the folder gives its entries. The path of the
run trace of a name is the path of the entry from which the name was taken.

## Key results

- `nameOfRun?_eq_some_iff`: a workload is named by what its run trace is called
- `Catalogued.unique`: there is one catalogue of the same entries
- `catalogue_exact`: the catalogue of a folder
-/

namespace PolicyReplay

open Text (Precedes)

/-- The path of an entry of a folder, if its name is a text. -/
def Files.Entry.path? (folder : String) (entry : Files.Entry) : Option String :=
  (Text.decode? entry.name).map fun name => Files.join folder (String.ofList name)

namespace Workload

variable {files files' : Files} {folder name : String} {entries entries' : List Files.Entry}
  {names names' : List String} {fileName : Bytes}

/-- What the run trace of a workload is called. -/
def runName (name : String) : Bytes := Text.encode (name ++ runSuffix).toList

/-- The name of a workload is what its run trace is called, but for the suffix. -/
theorem nameOfRun?_eq_some_iff :
    nameOfRun? fileName = some name ↔ name ≠ "" ∧ fileName = runName name := by
  -- the suffix is of letters, so it is looked for behind the text that the name of the file is
  rw [runName, ← Text.decode?_eq_some_iff, nameOfRun?, String.toList_append]
  cases Text.decode? fileName with
  | none => simp
  | some chars =>
    simp only [Option.some.injEq]
    constructor
    · intro h
      split at h
      · rename_i hsuffix
        obtain ⟨start, rfl⟩ := List.isSuffixOf_iff_suffix.mp hsuffix
        rw [List.length_append, Nat.add_sub_cancel, List.take_left] at h
        split at h
        · exact nomatch h
        · rename_i hne
          obtain rfl := Option.some.inj h
          exact ⟨by simpa using hne, by rw [String.toList_ofList]⟩
      · exact nomatch h
    · rintro ⟨hne, rfl⟩
      -- the other way, the suffix is there, and what is before it is the name
      have hsuffix : runSuffix.toList.isSuffixOf (name.toList ++ runSuffix.toList) = true :=
        List.isSuffixOf_iff_suffix.mpr (List.suffix_append _ _)
      rw [hsuffix, List.length_append, Nat.add_sub_cancel, List.take_left]
      simp [hne]

/-- A folder with these entries holds the run trace of a workload. -/
def HasRun (entries : List Files.Entry) (name : String) : Prop :=
  name ≠ "" ∧ ∃ entry ∈ entries, entry.regular = true ∧ entry.name = runName name

/-- Whether a run trace is there does not depend on the order of the entries. -/
theorem HasRun.perm (h : entries.Perm entries') : HasRun entries name ↔ HasRun entries' name := by
  simp only [HasRun, h.mem_iff]

/-- The names of the run traces among entries, in the order of their octets. -/
structure Catalogued (entries : List Files.Entry) (names : List String) : Prop where
  sorted : names.Pairwise Precedes
  complete : ∀ name, name ∈ names ↔ HasRun entries name

/-- There is one catalogue of the same entries, in whatever order they are. -/
theorem Catalogued.unique (h : Catalogued entries names) (h' : Catalogued entries' names')
    (hperm : entries'.Perm entries) : names = names' := by
  have hlt := fun {names : List String} (h : names.Pairwise Precedes) =>
    h.imp (S := (· < ·)) fun hab => Text.precedes_iff_lt.mp hab
  -- two sorted lists without repetitions are equal if they have the same members
  exact (hlt h.sorted).eq_of_mem_iff (hlt h'.sorted) fun name => by
    rw [h.complete, h'.complete, HasRun.perm hperm]

/-- Files with different names name different workloads. -/
theorem nodup_filterMap_nameOfRun? (h : (entries.map (·.name)).Nodup) :
    ((entries.filter (·.regular)).filterMap (nameOfRun? ·.name)).Nodup := by
  have hnames : ((entries.filter (·.regular)).map (·.name)).Nodup :=
    h.sublist (List.filter_sublist.map _)
  -- the name of the file can be told from the name of the workload
  have hnodup := hnames.filterMap (f := nameOfRun?) fun fileName fileName' name hname hname' => by
    rw [(nameOfRun?_eq_some_iff.mp hname).2, (nameOfRun?_eq_some_iff.mp hname').2]
  rwa [List.filterMap_map] at hnodup

/-- A folder whose entries have different names is catalogued. -/
theorem catalogued_catalogue (hlist : files.list folder = .ok entries)
    (hdistinct : (entries.map (·.name)).Nodup) :
    ∃ names, catalogue files folder = .ok names ∧ Catalogued entries names := by
  refine ⟨_, by rw [catalogue, hlist], ?_, fun name => ?_⟩
  · have hnodup := nodup_filterMap_nameOfRun? hdistinct
    -- sorting puts the names in order, and as they are distinct each one strictly precedes the next
    generalize (entries.filter (·.regular)).filterMap (nameOfRun? ·.name) = names at hnodup
    have hsorted : (names.mergeSort fun a b => decide (a ≤ b)).Pairwise
        fun a b => decide (a ≤ b) = true := by
      refine List.pairwise_mergeSort (fun a b c hab hbc => ?_) (fun a b => ?_) names
      · exact decide_eq_true (String.le_trans (of_decide_eq_true hab) (of_decide_eq_true hbc))
      · simpa using String.le_total a b
    refine (hsorted.and ((List.mergeSort_perm _ _).nodup_iff.mpr hnodup)).imp fun ⟨hle, hne⟩ => ?_
    exact (Text.precedes_or_eq_iff_le.mpr (of_decide_eq_true hle)).resolve_right hne
  · rw [(List.mergeSort_perm _ _).mem_iff, List.mem_filterMap, HasRun]
    -- the names that are kept are those of regular entries that are called as a run trace
    simp only [List.mem_filter, nameOfRun?_eq_some_iff]
    constructor
    · rintro ⟨entry, ⟨hentry, hregular⟩, hne, hname⟩
      exact ⟨hne, entry, hentry, hregular, hname⟩
    · rintro ⟨hne, entry, hentry, hregular, hname⟩
      exact ⟨entry, ⟨hentry, hregular⟩, hne, hname⟩

/-- The path of a run trace is that of the entry with its name. -/
theorem path?_of_name {entry : Files.Entry} (h : entry.name = runName name) :
    entry.path? folder = some (runPath folder name) := by
  rw [Files.Entry.path?, h, runName, Text.decode?_eq_some_iff.mpr rfl, runPath, Option.map_some,
    String.ofList_toList]

/-- The catalogue of a folder whose entries have different names, in whatever order it gives them:
the names, in the order of their octets and so each of them once, for which a regular entry is
called as a run trace. The path of its run trace is that of the entry, and in a tree of files it
leads to the file in the folder, unless it is no path at all. -/
theorem catalogue_exact (hlist : files.list folder = .ok entries)
    (hdistinct : (entries.map (·.name)).Nodup) :
    ∃ names, (∀ files' entries', files'.list folder = .ok entries' → entries'.Perm entries →
        catalogue files' folder = .ok names) ∧
      names.Pairwise Precedes ∧
      (∀ name, name ∈ names ↔ name ≠ "" ∧ ∃ entry ∈ entries, entry.regular = true ∧
        entry.name = Text.encode (name ++ "_run").toList) ∧
      ∀ name ∈ names,
        (∃ entry ∈ entries, entry.regular = true ∧
          entry.name = Text.encode (name ++ "_run").toList ∧
          entry.path? folder = some (runPath folder name)) ∧
        ∀ (tree : Files.Tree) cwd, tree.Sound → tree.list cwd folder = .ok entries →
          ∃ place content, tree.locate cwd folder = .ok place ∧
            tree.node? (place ++ [name ++ "_run"]) = some (.file content) ∧
            (Files.Path.check (runPath folder name) = .ok () →
              tree.read cwd (runPath folder name) = .ok content) := by
  obtain ⟨names, -, hnames⟩ := catalogued_catalogue hlist hdistinct
  refine ⟨names, fun files' entries' hlist' hperm => ?_, hnames.sorted, hnames.complete,
    fun name hname => ?_⟩
  -- another order of the entries gives another catalogue of the same names, and there is only one
  · have hdistinct' := ((hperm.map (·.name)).nodup_iff).mpr hdistinct
    obtain ⟨names', hcatalogue, hnames'⟩ := catalogued_catalogue hlist' hdistinct'
    rw [hcatalogue, hnames.unique hnames' hperm]
  · obtain ⟨-, entry, hentry, hregular, hcalled⟩ := (hnames.complete name).mp hname
    refine ⟨⟨entry, hentry, hregular, hcalled, path?_of_name hcalled⟩,
      fun tree cwd hsound htree => ?_⟩
    -- in a tree, the entry is a file in the folder, which its path leads to
    have hentry : ⟨Text.encode (name ++ runSuffix).toList, true⟩ ∈ entries := by
      rw [← runName, ← hcalled, ← hregular]
      exact hentry
    have hread := hsound.read_join htree hentry
    rw [String.ofList_toList] at hread
    exact hread

/-- A folder with run traces, and with entries that only look like them: one without a name, a link
and a folder. -/
def mixedTraces : Files.Tree where
  nodes := [
    (Files.workplace ++ ["traces"], .folder),
    (Files.workplace ++ ["traces", "b_run"], .file []),
    (Files.workplace ++ ["traces", "a_run_run"], .file [0x23]),
    (Files.workplace ++ ["traces", "_run"], .file []),
    (Files.workplace ++ ["traces", "c_run"], .link "b_run"),
    (Files.workplace ++ ["traces", "d_run"], .folder),
    (Files.workplace ++ ["traces", "a_run"], .file [])]

/-- The items that make such a folder. -/
theorem ofItems_mixedTraces : Files.Tree.ofItems [
    ("traces", .folder), ("traces/b_run", .file []), ("traces/a_run_run", .file [0x23]),
    ("traces/_run", .file []), ("traces/c_run", .link "b_run"), ("traces/d_run", .folder),
    ("traces/a_run", .file [])] = .ok mixedTraces := by
  -- the folder is made first, and each of the others adds one node in it
  refine Except.bind_eq_ok_iff.mpr ⟨_, Files.Tree.put_folder "traces" (by decide), ?_⟩
  refine Except.bind_eq_ok_iff.mpr ⟨_, Files.Tree.put_child "traces" "b_run" (by decide), ?_⟩
  refine Except.bind_eq_ok_iff.mpr ⟨_, Files.Tree.put_child "traces" "a_run_run" (by decide), ?_⟩
  refine Except.bind_eq_ok_iff.mpr ⟨_, Files.Tree.put_child "traces" "_run" (by decide), ?_⟩
  refine Except.bind_eq_ok_iff.mpr ⟨_, Files.Tree.put_child "traces" "c_run" (by decide), ?_⟩
  refine Except.bind_eq_ok_iff.mpr ⟨_, Files.Tree.put_child "traces" "d_run" (by decide), ?_⟩
  refine Except.bind_eq_ok_iff.mpr ⟨_, Files.Tree.put_child "traces" "a_run" (by decide), ?_⟩
  rfl

/-- Such a folder is sound, as it is built from items. -/
theorem sound_mixedTraces : mixedTraces.Sound := Files.Tree.sound_ofItems ofItems_mixedTraces

/-- The path of the folder leads to it, with the dot and the slash that are written around it. -/
theorem locate_mixedTraces : mixedTraces.locate Files.workplace "./traces/" =
    .ok (Files.workplace ++ ["traces"]) := by
  have hpath : Files.Path.ofText "./traces/" = ⟨false, ["traces"], true⟩ := by decide
  have hcheck : Files.Path.check "./traces/" = .ok () := by decide
  have hfolder : mixedTraces.node? (Files.workplace ++ ["traces"]) = some .folder := by decide
  rw [Files.Tree.locate, hcheck]
  show mixedTraces.walk false _ (Files.Tree.startOf _ (Files.Path.ofText _))
    (Files.Path.ofText _).names (Files.Path.ofText _).closed = _
  have hend : ∀ place closed, mixedTraces.walk false Files.Tree.maxLinks place [] closed =
      .ok place := fun _ _ => by rw [Files.Tree.walk]
  rw [hpath, Files.Tree.startOf, if_neg Bool.false_ne_true, Files.Tree.walk]
  simp only [hfolder, hend]
  decide

/-- The workloads of such a folder are those whose run traces are regular files with a name. -/
theorem catalogue_exact_mixed : ∃ names,
    catalogue mixedTraces.files "./traces/" = .ok names ∧ names.Pairwise Precedes ∧
      "a" ∈ names ∧ "a_run" ∈ names ∧ "" ∉ names ∧ "c" ∉ names ∧ "d" ∉ names ∧
      mixedTraces.read Files.workplace (runPath "./traces/" "a_run") = .ok [0x23] := by
  obtain ⟨entries, hlist, hentries⟩ : ∃ entries, mixedTraces.files.list "./traces/" = .ok entries ∧
      entries = [⟨Text.encode "b_run".toList, true⟩, ⟨Text.encode "a_run_run".toList, true⟩,
        ⟨Text.encode "_run".toList, true⟩, ⟨Text.encode "c_run".toList, false⟩,
        ⟨Text.encode "d_run".toList, false⟩, ⟨Text.encode "a_run".toList, true⟩] := by
    -- the entries of the folder are listed in the order in which they were made
    refine ⟨_, ?_, rfl⟩
    show mixedTraces.list Files.workplace "./traces/" = _
    rw [Files.Tree.list, locate_mixedTraces]
    decide
  obtain ⟨names, hcatalogue, hsorted, hcomplete, hread⟩ :=
    catalogue_exact hlist (sound_mixedTraces.nodup_list hlist)
  refine ⟨names, hcatalogue _ _ hlist (.refl _), hsorted, ?_⟩
  simp only [hcomplete, hentries]
  refine ⟨by decide, by decide, by decide, by decide, by decide, ?_⟩
  have hmem : "a_run" ∈ names := by
    rw [hcomplete, hentries]
    decide
  obtain ⟨place, content, hlocate, hfile, hread⟩ := (hread "a_run" hmem).2 mixedTraces
    Files.workplace sound_mixedTraces hlist
  rw [hread (by decide)]
  rw [locate_mixedTraces] at hlocate
  rw [← Except.ok.inj hlocate] at hfile
  have hcontent : mixedTraces.node? (Files.workplace ++ ["traces"] ++ ["a_run" ++ "_run"]) =
      some (.file [0x23]) := by decide
  rw [hcontent] at hfile
  rw [Files.Node.file.inj (Option.some.inj hfile)]

end Workload

end PolicyReplay
