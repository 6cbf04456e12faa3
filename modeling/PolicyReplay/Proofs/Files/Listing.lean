import PolicyReplay.Proofs.Files.Sound
import PolicyReplay.Proofs.Text.Utf8

/-!
# What is listed can be found

A path into a folder is the path of the folder and one more name. Whatever links there are on the
way, following it ends where following the path of the folder ends, and one name further. So a file
that is listed in a folder is read at its path in the folder.

## Key results

- `Path.ofText_join`: a path into a folder has one more name
- `Tree.walk_concat`: following one more name
- `Tree.Sound.read_join`: a listed file is read at its path
- `Tree.Sound.nodup_list`: no two entries of a folder have the same name
-/

namespace PolicyReplay.Files

/-! ## Paths into a folder -/

namespace Path

/-- The names that a text has between its slashes. -/
def rawNames (text : String) : List String :=
  ((Text.pieces (· == '/') text.toList).map String.ofList).filter fun name => !name.isEmpty

/-- The names that lead anywhere. -/
def leading (names : List String) : List String := names.filter fun name => name ≠ "."

/-- A dot in front of names leads nowhere. -/
theorem leading_cons (name : String) (names : List String) :
    leading (name :: names) = if name = "." then leading names else name :: leading names := by
  by_cases h : name = "." <;> simp [leading, h]

/-- Only the last name is kept whatever it is. -/
theorem dropDots_concat (names : List String) (last : String) :
    dropDots (names ++ [last]) = leading names ++ [last] := by
  -- by induction on the names in front of the last
  induction names with
  | nil => rfl
  | cons name names ih =>
    rw [leading_cons, List.cons_append, dropDots, ih]
    · split <;> rfl
    · simp

/-- The last name is kept even if it leads nowhere. -/
theorem dropDots_cases (names : List String) :
    dropDots names = leading names ∨ dropDots names = leading names ++ ["."] := by
  rcases List.eq_nil_or_concat names with rfl | ⟨init, last, rfl⟩
  · exact .inl rfl
  · rw [List.concat_eq_append, dropDots_concat, leading, leading, List.filter_append]
    by_cases h : last = "."
    · simp [h]
    · simp [h]

/-- A text in which one more name stands behind a slash. -/
theorem rawNames_append {s : List Char} {name : String} (hname : IsName name) :
    rawNames (String.ofList (s ++ '/' :: name.toList)) = rawNames (String.ofList s) ++ [name] := by
  have hkept : name.isEmpty = false := by
    simpa [String.isEmpty_iff] using hname.nonempty
  rw [rawNames, rawNames, String.toList_ofList, String.toList_ofList, Text.pieces_append_cons,
    Text.pieces_of_not_mem hname.no_slash, List.map_append, List.filter_append, List.map_singleton,
    String.ofList_toList, List.filter_singleton, hkept]
  rfl

/-- A slash at the end adds no name. -/
theorem rawNames_concat_slash (s : List Char) :
    rawNames (String.ofList (s ++ ['/'])) = rawNames (String.ofList s) := by
  rw [rawNames, rawNames, String.toList_ofList, String.toList_ofList, Text.pieces_append_cons,
    List.map_append, List.filter_append]
  simp [Text.pieces]

/-- A path into a folder is that of the folder, a slash that may be there already, and the name. -/
theorem exists_join {folder name : String} (hfolder : folder ≠ "") (hname : IsName name) :
    ∃ s : List Char, join folder name = String.ofList (s ++ '/' :: name.toList) ∧
      (folder = String.ofList s ∧ s ≠ [] ∨ folder = String.ofList (s ++ ['/'])) := by
  have hhead : name.toList.head? ≠ some '/' := fun h =>
    hname.no_slash (List.mem_of_mem_head? h)
  -- a slash is put between the two, unless the folder ends with one
  have hempty : folder.isEmpty = false := by simpa [String.isEmpty_iff] using hfolder
  unfold join
  rw [hempty, Bool.or_false, decide_eq_false hhead]
  simp only [Bool.false_eq_true, ↓reduceIte]
  split
  · rename_i hlast
    obtain ⟨s, hs⟩ := List.getLast?_eq_some_iff.mp hlast
    refine ⟨s, ?_, .inr ?_⟩
    · rw [← String.toList_inj, String.toList_append, hs]
      simp
    · rw [← hs, String.ofList_toList]
  · refine ⟨folder.toList, ?_, .inl ⟨String.ofList_toList.symm, ?_⟩⟩
    · rw [← String.toList_inj]
      simp
    · simpa using hfolder

/-- A path into a folder starts where that of the folder does and has one more name. -/
theorem ofText_join {folder name : String} (hfolder : folder ≠ "") (hname : IsName name) :
    ofText (join folder name) =
      ⟨(ofText folder).absolute, leading (rawNames folder) ++ [name], false⟩ := by
  have hlast : name.toList.getLast? ≠ some '/' := fun h =>
    hname.no_slash (List.mem_of_getLast? h)
  have hne : name.toList ≠ [] := by simpa using hname.nonempty
  obtain ⟨s, hjoin, hfolder⟩ := exists_join hfolder hname
  have hnames : rawNames (join folder name) = rawNames folder ++ [name] := by
    rw [hjoin, rawNames_append hname]
    rcases hfolder with ⟨rfl, -⟩ | rfl
    · rfl
    · rw [rawNames_concat_slash]
  -- nothing is put in front, so the path is absolute if that of the folder is
  have habsolute : (join folder name).toList.head? = folder.toList.head? := by
    rw [hjoin]
    rcases hfolder with ⟨rfl, hs⟩ | rfl
    · obtain ⟨c, s, rfl⟩ := List.exists_cons_of_ne_nil hs
      simp
    · cases s <;> simp
  have hclosed : (join folder name).toList.getLast? = name.toList.getLast? := by
    rw [hjoin, String.toList_ofList, List.append_cons, List.getLast?_append_of_ne_nil _ hne]
  have hdropped := dropDots_concat (rawNames folder) name
  rw [← hnames] at hdropped
  rw [ofText, ← rawNames, hdropped, habsolute, hclosed, decide_eq_false hlast]
  rfl

end Path

/-! ## Following names -/

namespace Tree

/-- Where a name leads behind which there are others: how many links may still be followed, a place,
and the names that a link has put in front of the others. -/
inductive Leads (tree : Tree) : Nat → Place → String → Nat → Place → List String → Prop where
  | stay {links : Nat} {place : Place} : Leads tree links place "." links place []
  | up {links : Nat} {place : Place} : Leads tree links place ".." links place.dropLast []
  | down {links : Nat} {place : Place} {name : String} (hdot : name ≠ ".") (hdots : name ≠ "..")
    (hshort : name.utf8ByteSize ≤ Path.maxName)
    (hfolder : tree.node? (place ++ [name]) = some .folder) :
    Leads tree links place name links (place ++ [name]) []
  | across {links : Nat} {place : Place} {name target : String} (hdot : name ≠ ".")
    (hdots : name ≠ "..") (hshort : name.utf8ByteSize ≤ Path.maxName)
    (hlink : tree.node? (place ++ [name]) = some (.link target)) :
    Leads tree (links + 1) place name links (startOf place (Path.ofText target))
      (Path.ofText target).names

variable {tree : Tree} {links links' : Nat} {place place' folder : Place} {name : String}
  {todo more : List String} {closed : Bool} {content : Bytes}

/-- Names are followed one after the other. -/
theorem walk_of_leads (h : Leads tree links place name links' place' more) (htodo : todo ≠ []) :
    tree.walk false links place (name :: todo) closed =
      tree.walk false links' place' (more ++ todo) closed := by
  -- behind the name there are others, so it does not matter whether something is to be made
  have hlast : todo.isEmpty = false := by simpa using htodo
  rw [walk, hlast]
  cases h with
  | stay => simp
  | up => simp
  | down hdot hdots hshort hfolder =>
    simp [hdot, hdots, Nat.not_lt.mpr hshort, hfolder]
  | across hdot hdots hshort hlink =>
    simp [hdot, hdots, Nat.not_lt.mpr hshort, hlink]

/-- Names that lead to a folder lead there one after the other. -/
theorem leads_of_walk (h : tree.walk false links place (name :: todo) closed = .ok folder)
    (hfolder : tree.node? folder = some .folder) :
    ∃ links' place' more closed', Leads tree links place name links' place' more ∧
      tree.walk false links' place' (more ++ todo) closed' = .ok folder := by
  rw [walk] at h
  simp only [Bool.and_false, Bool.false_and, Bool.false_eq_true, ↓reduceIte] at h
  split at h
  -- the cases are those of a name: two dots or one, nothing, a folder, a link or a file
  · rename_i hdot
    subst hdot
    exact ⟨links, place, [], closed, .stay, h⟩
  split at h
  · rename_i hdots
    subst hdots
    exact ⟨links, place.dropLast, [], closed, .up, h⟩
  split at h
  · cases h
  rename_i hdot hdots hlong
  have hshort := Nat.le_of_not_lt hlong
  split at h
  · rename_i hnone
    split at h
    · rw [← Except.ok.inj h, hnone] at hfolder
      cases hfolder
    · cases h
  · rename_i hdown
    exact ⟨links, place ++ [name], [], closed, .down hdot hdots hshort hdown, h⟩
  · rename_i target hlink
    split at h
    · cases h
    · rename_i links'
      exact ⟨links', _, _, _, .across hdot hdots hshort hlink, h⟩
  · rename_i hother _ hnode
    split at h
    · rw [← Except.ok.inj h, hnode] at hfolder
      exact absurd (Option.some.inj hfolder) (hother ·)
    · cases h

/-- Only a link puts names in front of the others, and there are fewer to follow then. -/
theorem Leads.eq_or_lt (h : Leads tree links place name links' place' more) :
    links' = links ∧ more = [] ∨ links' < links := by
  cases h with
  | stay => exact .inl ⟨rfl, rfl⟩
  | up => exact .inl ⟨rfl, rfl⟩
  | down => exact .inl ⟨rfl, rfl⟩
  | across => exact .inr (Nat.lt_succ_self _)

/-- The name of a file that is in a folder leads to the file. -/
theorem walk_name (hname : IsName name)
    (hfile : tree.node? (place ++ [name]) = some (.file content)) :
    tree.walk false links place [name] false = .ok (place ++ [name]) := by
  rw [walk]
  simp [hname.ne_dot, hname.ne_dots, Nat.not_lt.mpr hname.short, hfile]

/-- Names that lead to a folder, whether or not a dot is behind them, lead to a file in the folder
when its name is behind them. -/
theorem walk_concat {names last : List String} (hlast : last = [] ∨ last = ["."])
    (h : tree.walk false links place (names ++ last) closed = .ok folder)
    (hfolder : tree.node? folder = some .folder) (hname : IsName name)
    (hfile : tree.node? (folder ++ [name]) = some (.file content)) :
    tree.walk false links place (names ++ [name]) false = .ok (folder ++ [name]) := by
  -- a link makes the names longer, so the number of links that are left comes first
  induction links using Nat.strong_induction_on generalizing place names closed with
  | _ links ihLinks =>
    induction names generalizing place closed with
    | nil =>
      have hplace : place = folder := by
        rcases hlast with rfl | rfl <;> simpa [walk] using h
      subst hplace
      exact walk_name hname hfile
    | cons first names ihNames =>
      rw [List.cons_append] at h ⊢
      obtain ⟨links', place', more, closed', hleads, h⟩ := leads_of_walk h hfolder
      rw [walk_of_leads hleads (List.append_ne_nil_of_right_ne_nil _ (by simp))]
      rcases hleads.eq_or_lt with ⟨rfl, rfl⟩ | hlt
      · exact ihNames h
      · rw [← List.append_assoc] at h ⊢
        exact ihLinks links' hlt h

/-- The path of a file in a folder leads to the file. -/
theorem locate_join {cwd : Place} {path : String} (h : tree.locate cwd path = .ok folder)
    (hfolder : tree.node? folder = some .folder) (hname : IsName name)
    (hfile : tree.node? (folder ++ [name]) = some (.file content))
    (hcheck : Path.check (join path name) = .ok ()) :
    tree.locate cwd (join path name) = .ok (folder ++ [name]) := by
  obtain ⟨_, hpath, (hwalk : tree.walk false maxLinks (startOf cwd (Path.ofText path))
    (Path.ofText path).names (Path.ofText path).closed = .ok folder)⟩ := Except.bind_eq_ok_iff.mp h
  have hne : path ≠ "" := by
    rintro rfl
    exact nomatch hpath
  -- the dot at the end of a path is the only one that is left to follow
  obtain ⟨last, hlast, hnames⟩ : ∃ last, (last = [] ∨ last = ["."]) ∧
      (Path.ofText path).names = Path.leading (Path.rawNames path) ++ last := by
    rcases Path.dropDots_cases (Path.rawNames path) with hdrop | hdrop
    · exact ⟨[], .inl rfl, by rw [List.append_nil]; exact hdrop⟩
    · exact ⟨["."], .inr rfl, hdrop⟩
  rw [hnames] at hwalk
  have hjoin := walk_concat hlast hwalk hfolder hname hfile
  rw [locate, hcheck, Path.ofText_join hne hname]
  exact hjoin

/-- What is listed in a folder has been made there. -/
theorem eq_of_child {made : Place × Node} {child : String × Node}
    (h : (match made.1.getLast? with
      | some name => if made.1.dropLast = place then some (name, made.2) else none
      | none => none) = some child) : made = (place ++ [child.1], child.2) := by
  split at h
  · rename_i last hlast
    split at h
    · rename_i hplace
      obtain ⟨init, hinit⟩ := List.getLast?_eq_some_iff.mp hlast
      rw [hinit, List.dropLast_concat] at hplace
      rw [← Option.some.inj h, ← hplace, ← hinit]
    · exact nomatch h
  · exact nomatch h

/-- What is listed in a folder stands in it. -/
theorem mem_nodes_of_mem_children {node : Node} (h : (name, node) ∈ tree.children place) :
    (place ++ [name], node) ∈ tree.nodes := by
  obtain ⟨made, hmade, hchild⟩ := List.mem_filterMap.mp h
  rw [← eq_of_child hchild]
  exact hmade

/-- What has been made at a place is what stands there. -/
theorem Sound.node?_of_mem {node : Node} (hsound : tree.Sound) (h : (place, node) ∈ tree.nodes) :
    tree.node? place = some node := by
  have hlookup := (List.lookup_eq_some_iff_mem hsound.nodup).mpr h
  rw [node?, hlookup]
  rfl

/-- A regular entry of a folder that is listed is the name of a file that is read at its path in
the folder, unless the path is refused before any name is followed. -/
theorem Sound.read_join {cwd : Place} {path : String} {entries : List Entry} {chars : List Char}
    (hsound : tree.Sound) (h : tree.list cwd path = .ok entries)
    (hentry : ⟨Text.encode chars, true⟩ ∈ entries) :
    ∃ folder content, tree.locate cwd path = .ok folder ∧
      tree.node? (folder ++ [String.ofList chars]) = some (.file content) ∧
      (Path.check (join path (String.ofList chars)) = .ok () →
        tree.read cwd (join path (String.ofList chars)) = .ok content) := by
  obtain ⟨folder, hlocate, h⟩ := Except.bind_eq_ok_iff.mp h
  split at h
  · rename_i hfolder
    obtain rfl := Except.ok.inj h
    obtain ⟨⟨name, node⟩, hchild, heq⟩ := List.mem_map.mp hentry
    obtain ⟨hname, hregular⟩ := Entry.mk.inj heq
    obtain rfl : name = String.ofList chars := by
      -- the name of the entry is written as octets, and those are read as the name
      rw [← Text.encode_injective hname, String.ofList_toList]
    have hmem := mem_nodes_of_mem_children hchild
    have hnode := hsound.node?_of_mem hmem
    split at hregular
    · rename_i content
      -- an entry is regular exactly if its node is a file
      refine ⟨folder, content, hlocate, hnode, fun hcheck => ?_⟩
      have hisName := hsound.names _ hmem (String.ofList chars) (by simp)
      rw [read, locate_join hlocate hfolder hisName hnode hcheck]
      show tree.contentAt (folder ++ [String.ofList chars]) = _
      rw [contentAt, hnode]
    · exact nomatch hregular
  · exact nomatch h
  · exact nomatch h

/-- No two entries of a folder have the same name. -/
theorem Sound.nodup_list {cwd : Place} {path : String} {entries : List Entry}
    (hsound : tree.Sound) (h : tree.list cwd path = .ok entries) :
    (entries.map (·.name)).Nodup := by
  obtain ⟨folder, -, h⟩ := Except.bind_eq_ok_iff.mp h
  split at h
  · obtain rfl := Except.ok.inj h
    rw [List.map_map, List.Nodup, List.pairwise_map]
    -- two entries of the same name would have been made at the same place
    refine (List.pairwise_map.mp hsound.nodup).filterMap _ fun made made' hne child hchild child'
      hchild' heq => hne ?_
    rw [eq_of_child hchild, eq_of_child hchild', String.toList_inj.mp (Text.encode_injective heq)]
  · exact nomatch h
  · exact nomatch h

end Tree

end PolicyReplay.Files
