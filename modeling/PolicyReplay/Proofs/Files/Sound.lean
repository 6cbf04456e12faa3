import Mathlib.Data.List.Basic
import PolicyReplay.Files.Tree
import PolicyReplay.Proofs.Except
import PolicyReplay.Proofs.Text.Split

/-!
# File trees are sound

Each place in a tree has one node, and what leads to it are names that a file can have: no slash is
in them, and none of them leads to where it stands or up. The empty tree is sound, and whatever is
put into a sound tree leaves it sound.

## Key results

- `Tree.Sound`: one node for each place, and names on the way to it
- `Tree.isName_of_walk`: only names lead to a place
- `Tree.Sound.put`: a sound tree stays sound
- `Tree.sound_ofItems`: a tree that is built from items is sound
- `Tree.put_child`: what putting an item into a folder adds
-/

namespace PolicyReplay.Files

/-- What may stand between two slashes of a path. -/
structure Path.IsPart (name : String) : Prop where
  nonempty : name ≠ ""
  no_slash : '/' ∉ name.toList

/-- A name that an entry of a folder can have. -/
structure IsName (name : String) : Prop extends Path.IsPart name where
  ne_dot : name ≠ "."
  ne_dots : name ≠ ".."
  short : name.utf8ByteSize ≤ Path.maxName

instance (name : String) : Decidable (IsName name) :=
  decidable_of_iff ((name ≠ "" ∧ '/' ∉ name.toList) ∧ name ≠ "." ∧ name ≠ ".." ∧
      name.utf8ByteSize ≤ Path.maxName)
    ⟨fun ⟨⟨h₁, h₂⟩, h₃, h₄, h₅⟩ => ⟨⟨h₁, h₂⟩, h₃, h₄, h₅⟩,
      fun h => ⟨⟨h.nonempty, h.no_slash⟩, h.ne_dot, h.ne_dots, h.short⟩⟩

/-! ## Names of a path -/

namespace Path

variable {name text : String} {names : List String}

/-- Leaving out the dots adds no name. -/
theorem mem_of_mem_dropDots (h : name ∈ dropDots names) : name ∈ names := by
  induction names using dropDots.induct with
  | case1 => exact h
  | case2 last => exact h
  | case3 rest _ ih =>
    simp only [dropDots, ↓reduceIte] at h
    exact List.mem_cons_of_mem _ (ih h)
  | case4 first rest _ hdot ih =>
    simp only [dropDots, hdot, ↓reduceIte] at h
    rcases List.mem_cons.mp h with rfl | h
    · exact List.mem_cons_self
    · exact List.mem_cons_of_mem _ (ih h)

/-- What is between two slashes of a text is a part of a path. -/
theorem isPart_of_mem_names (h : name ∈ (ofText text).names) : IsPart name := by
  -- no piece holds a slash, and the empty pieces are left out
  obtain ⟨hmem, hne⟩ := List.mem_filter.mp (mem_of_mem_dropDots h)
  obtain ⟨piece, hpiece, rfl⟩ := List.mem_map.mp hmem
  refine ⟨by simpa using hne, ?_⟩
  rw [String.toList_ofList]
  exact Text.not_mem_of_mem_pieces hpiece

end Path

namespace Tree

variable {tree tree' : Tree} {links : Nat} {cwd place place' : Place} {name path : String}
  {todo names : List String} {making closed : Bool} {content : Bytes}

/-! ## Following names -/

/-- A name at the end of names makes names. -/
theorem isName_concat (hplace : ∀ other ∈ place, IsName other) (hname : IsName name) :
    ∀ other ∈ place ++ [name], IsName other := by
  intro other hother
  rcases List.mem_append.mp hother with hother | hother
  · exact hplace other hother
  · rw [List.mem_singleton.mp hother]
    exact hname

/-- A path starts at the root, to which no name leads, or where names lead to. -/
theorem isName_startOf (hcwd : ∀ name ∈ cwd, IsName name) (path : Path) :
    ∀ name ∈ startOf cwd path, IsName name := by
  unfold startOf
  split
  · exact fun name hname => nomatch hname
  · exact hcwd

/-- Only names lead to a place. -/
theorem isName_of_walk (h : tree.walk making links place todo closed = .ok place')
    (hplace : ∀ name ∈ place, IsName name) (htodo : ∀ name ∈ todo, Path.IsPart name) :
    ∀ name ∈ place', IsName name := by
  -- the walk goes down by a name only when it is neither a dot nor two dots, and not too long
  have hnext {place : Place} {name : String} {todo : List String}
      (hplace : ∀ name ∈ place, IsName name)
      (htodo : ∀ other ∈ name :: todo, Path.IsPart other) (hdot : ¬ name = ".")
      (hdots : ¬ name = "..") (hlong : ¬ Path.maxName < name.utf8ByteSize) :
      ∀ other ∈ place ++ [name], IsName other :=
    isName_concat hplace ⟨(List.forall_mem_cons.mp htodo).1, hdot, hdots, Nat.le_of_not_lt hlong⟩
  fun_induction walk tree making links place todo closed with
  | case1 =>
    obtain rfl := Except.ok.inj h
    exact hplace
  | case2 | case5 | case7 | case9 | case12 => exact nomatch h
  -- a dot stays where it is, and two dots take a name away
  | case3 _ _ _ _ _ _ ih => exact ih h hplace (List.forall_mem_cons.mp htodo).2
  | case4 _ _ _ _ _ _ _ ih =>
    exact ih h (fun name hname => hplace name (List.dropLast_subset _ hname))
      (List.forall_mem_cons.mp htodo).2
  | case6 _ _ _ _ _ _ _ hdot hdots hlong | case11 _ _ _ _ _ _ _ hdot hdots hlong =>
    obtain rfl := Except.ok.inj h
    exact hnext hplace htodo hdot hdots hlong
  | case8 _ _ _ _ _ _ _ hdot hdots hlong _ _ ih =>
    exact ih h (hnext hplace htodo hdot hdots hlong) (List.forall_mem_cons.mp htodo).2
  | case10 place _ _ _ _ _ _ _ _ _ target _ _ path ih =>
    -- the names of the link's target come in front of the others
    exact ih h (isName_startOf hplace path) (List.forall_mem_append.mpr
      ⟨fun name => Path.isPart_of_mem_names, (List.forall_mem_cons.mp htodo).2⟩)

/-! ## Sound trees -/

/-- Each place has one node, and names lead to it. -/
structure Sound (tree : Tree) : Prop where
  nodup : (tree.nodes.map (·.1)).Nodup
  names : ∀ entry ∈ tree.nodes, ∀ name ∈ entry.1, IsName name

/-- The tree without a node is sound. -/
theorem sound_empty : ({} : Tree).Sound := ⟨List.nodup_nil, fun _ h => nomatch h⟩

/-- Nodes are replaced where they are. -/
theorem map_fst_map {nodes : List (Place × Node)} {f : Place × Node → Place × Node}
    (h : ∀ entry, (f entry).1 = entry.1) : (nodes.map f).map (·.1) = nodes.map (·.1) := by
  rw [List.map_map]
  exact List.map_congr_left fun entry _ => h entry

/-- Setting the node of a place to which names lead leaves a sound tree sound. -/
theorem Sound.setNode (hsound : tree.Sound) (hplace : ∀ name ∈ place, IsName name) (node : Node) :
    (tree.setNode place node).Sound := by
  unfold Tree.setNode
  split
  · -- a node that is replaced keeps its place
    have hkept (entry : Place × Node) :
        (if entry.1 = place then (entry.1, node) else (entry.1, entry.2)).1 = entry.1 := by
      split <;> rfl
    refine ⟨?_, fun entry hentry => ?_⟩
    · rw [map_fst_map hkept]
      exact hsound.nodup
    · have hmem := List.mem_map_of_mem (f := (·.1)) hentry
      rw [map_fst_map hkept] at hmem
      obtain ⟨other, hother, heq⟩ := List.mem_map.mp hmem
      rw [← heq]
      exact hsound.names other hother
  · -- a node that is added has a place of its own
    rename_i hnew
    have hnew : ∀ entry ∈ tree.nodes, entry.1 ≠ place := fun entry hentry heq =>
      hnew (List.lookup_isSome_iff.mpr ⟨entry, hentry, beq_iff_eq.mpr heq.symm⟩)
    refine ⟨?_, List.forall_mem_append.mpr ⟨hsound.names, by simpa using hplace⟩⟩
    rw [List.map_append, List.map_singleton]
    refine List.nodup_append.mpr ⟨hsound.nodup, List.pairwise_singleton _ _, fun p hp q hq => ?_⟩
    obtain ⟨entry, hentry, rfl⟩ := List.mem_map.mp hp
    rw [List.mem_singleton.mp hq]
    exact hnew entry hentry

/-- Writing a file puts it at a place to which names lead, or leaves the tree as it is. -/
theorem Sound.write (hsound : tree.Sound) (hcwd : ∀ name ∈ cwd, IsName name)
    (h : tree.write cwd path content = .ok tree') : tree'.Sound := by
  -- a file is written where the walk along the path ends
  obtain ⟨place, hlocate, hset⟩ := Except.bind_eq_ok_iff.mp h
  obtain ⟨_, -, hlocate⟩ := Except.bind_eq_ok_iff.mp hlocate
  obtain ⟨found, hwalk, hlocate⟩ := Except.bind_eq_ok_iff.mp hlocate
  have hfound := isName_of_walk hwalk (isName_startOf hcwd _) fun _ => Path.isPart_of_mem_names
  obtain rfl : found = place := by
    split at hlocate
    · exact nomatch hlocate
    · exact Except.ok.inj hlocate
  -- a file that has the content already is not touched, and a folder is not written over
  unfold setContent at hset
  split at hset
  · split at hset
    · exact Except.ok.inj hset ▸ hsound
    · exact nomatch hset
  · exact Except.ok.inj hset ▸ hsound
  · exact Except.ok.inj hset ▸ hsound.setNode hfound _

/-- Only names lead to the place of something new. -/
theorem isName_of_newPlace (h : tree.newPlace cwd names = .ok place)
    (hcwd : ∀ name ∈ cwd, IsName name) (hnames : ∀ name ∈ names, Path.IsPart name) :
    ∀ name ∈ place, IsName name := by
  -- the walk ends in the folder above, and what is new there must have a name
  obtain ⟨parent, hwalk, h⟩ := Except.bind_eq_ok_iff.mp h
  have hparent := isName_of_walk hwalk hcwd fun name hname =>
    hnames name (List.dropLast_subset _ hname)
  split at h
  · split at h
    · exact nomatch h
    · exact nomatch h
    · exact nomatch h
    · rename_i last hdot hdots hlast
      have hpart := hnames last (List.mem_of_getLast? hlast)
      dsimp only at h
      split at h
      · exact nomatch h
      rename_i hlong
      split at h
      · exact nomatch h
      obtain rfl := Except.ok.inj h
      exact isName_concat hparent ⟨hpart, hdot, hdots, Nat.le_of_not_lt hlong⟩
  · exact nomatch h
  · exact nomatch h

/-- Making the folders on the way to a place leaves a sound tree sound. -/
theorem Sound.makeFolders (hsound : tree.Sound) (hcwd : ∀ name ∈ cwd, IsName name)
    (hnames : ∀ name ∈ names, Path.IsPart name) (h : tree.makeFolders cwd names = .ok tree') :
    tree'.Sound := by
  unfold Tree.makeFolders at h
  -- the folders are made one after the other, each in a tree that is sound
  generalize List.range names.length = depths at h
  induction depths generalizing tree with
  | nil => exact Except.ok.inj h ▸ hsound
  | cons depth depths ih =>
    obtain ⟨next, hnext, h⟩ := Except.bind_eq_ok_iff.mp h
    refine ih ?_ h
    dsimp only at hnext
    -- a folder that is there already is not made again
    split at hnext
    · exact Except.ok.inj hnext ▸ hsound
    · obtain ⟨place, hplace, hnext⟩ := Except.bind_eq_ok_iff.mp hnext
      exact Except.ok.inj hnext ▸ hsound.setNode (isName_of_newPlace hplace hcwd
        fun name hname => hnames name (List.mem_of_mem_take hname)) _

/-- Making a link leaves a sound tree sound. -/
theorem Sound.makeLink {target : String} (hsound : tree.Sound) (hcwd : ∀ name ∈ cwd, IsName name)
    (h : tree.makeLink cwd path target = .ok tree') : tree'.Sound := by
  obtain ⟨_, -, h⟩ := Except.bind_eq_ok_iff.mp h
  obtain ⟨_, -, h⟩ := Except.bind_eq_ok_iff.mp h
  obtain ⟨place, hplace, h⟩ := Except.bind_eq_ok_iff.mp h
  dsimp only at h
  split at h
  · exact nomatch h
  · exact Except.ok.inj h ▸ hsound.setNode (isName_of_newPlace hplace (isName_startOf hcwd _)
      fun _ => Path.isPart_of_mem_names) _

/-- Names lead to the place where a run works. -/
theorem isName_workplace : ∀ name ∈ workplace, IsName name := by decide

/-- What is put into a sound tree leaves it sound. -/
theorem Sound.put {item : Item} (hsound : tree.Sound) (h : tree.put path item = .ok tree') :
    tree'.Sound := by
  obtain ⟨_, -, h⟩ := Except.bind_eq_ok_iff.mp h
  dsimp only at h
  -- a dot at the end is no name of what is made
  generalize hnames : (if (Path.ofText path).names.getLast? = some "."
    then (Path.ofText path).names.dropLast else (Path.ofText path).names) = names at h
  have hparts : ∀ name ∈ names, Path.IsPart name := by
    intro name hname
    rw [← hnames] at hname
    split at hname
    · exact Path.isPart_of_mem_names (List.dropLast_subset _ hname)
    · exact Path.isPart_of_mem_names hname
  have habove : ∀ name ∈ names.dropLast, Path.IsPart name := fun name hname =>
    hparts name (List.dropLast_subset _ hname)
  -- whatever the item is, the folders above it are made first
  cases item with
  | folder =>
    dsimp only at h
    split at h
    · exact hsound.makeFolders isName_workplace hparts h
    · obtain ⟨made, hmade, h⟩ := Except.bind_eq_ok_iff.mp h
      split at h
      · exact Except.ok.inj h ▸ hsound.makeFolders isName_workplace habove hmade
      · exact nomatch h
  | file content =>
    obtain ⟨made, hmade, h⟩ := Except.bind_eq_ok_iff.mp h
    exact (hsound.makeFolders isName_workplace habove hmade).write isName_workplace h
  | link target =>
    obtain ⟨made, hmade, h⟩ := Except.bind_eq_ok_iff.mp h
    exact (hsound.makeFolders isName_workplace habove hmade).makeLink isName_workplace h

/-- A tree that is built by putting items at their paths is sound. -/
theorem sound_ofItems {items : List (String × Item)} (h : ofItems items = .ok tree) :
    tree.Sound := by
  have hsound := sound_empty
  unfold ofItems at h
  -- the items that are left find a sound tree
  generalize ({} : Tree) = start at h hsound
  induction items generalizing start with
  | nil => exact Except.ok.inj h ▸ hsound
  | cons item items ih =>
    obtain ⟨next, hnext, h⟩ := Except.bind_eq_ok_iff.mp h
    exact ih next h (hsound.put hnext)

/-! ## Putting an item into a folder -/

/-- The node that is made for an item. -/
def Item.node : Item → Node
  | .file content => .file content
  | .folder => .folder
  | .link target => .link target

/-- The paths that an item holds. -/
def Item.paths : Item → List String
  | .link target => [target]
  | _ => []

/-- A name that leads to a folder is followed into it. -/
theorem walk_folder (hname : IsName name) (hfolder : tree.node? (place ++ [name]) = some .folder)
    (h : making = false ∨ todo ≠ []) :
    tree.walk making links place (name :: todo) closed =
      tree.walk making links (place ++ [name]) todo closed := by
  -- the walk stops early only for a last name that may still be made
  have hfile : (todo.isEmpty && making) = false := by
    rcases h with rfl | h
    · rw [Bool.and_false]
    · rw [List.isEmpty_eq_false_iff.mpr h, Bool.false_and]
  rw [walk]
  simp only [hfile, Bool.false_and, Bool.false_eq_true, if_neg hname.ne_dot, if_neg hname.ne_dots,
    if_neg (Nat.not_lt.mpr hname.short), hfolder, if_false]

/-- A last name that leads to nothing yet is where a file can be made. -/
theorem walk_new (hname : IsName name) (hnew : tree.node? (place ++ [name]) = none) :
    tree.walk making links place [name] false = .ok (place ++ [name]) := by
  rw [walk]
  simp [hname.ne_dot, hname.ne_dots, Nat.not_lt.mpr hname.short, hnew]

/-- A walk along the name of a folder ends in the folder. -/
theorem walk_to_folder (hname : IsName name)
    (hfolder : tree.node? (place ++ [name]) = some .folder) :
    tree.walk false links place [name] closed = .ok (place ++ [name]) := by
  rw [walk_folder hname hfolder (.inl rfl), walk]

/-- A name of a folder that is there leads to it. -/
theorem leadToFolder_of_folder (hname : IsName name)
    (hfolder : tree.node? (place ++ [name]) = some .folder) :
    tree.leadToFolder place [name] = true := by
  rw [leadToFolder, walk_to_folder hname hfolder]
  exact decide_eq_true hfolder

/-- A new name leads to no folder. -/
theorem leadToFolder_of_new (hname : IsName name) (hnew : tree.node? (place ++ [name]) = none) :
    tree.leadToFolder place [name] = false := by
  rw [leadToFolder, walk]
  simp [hname.ne_dot, hname.ne_dots, Nat.not_lt.mpr hname.short, hnew]

/-- A new name in a folder that the names before it lead to is the place of something new. -/
theorem newPlace_of_new {start : Place} (names : List String)
    (hwalk : tree.walk false maxLinks start names true = .ok place)
    (hthere : tree.node? place = some .folder) (hname : IsName name)
    (hnew : tree.node? (place ++ [name]) = none) :
    tree.newPlace start (names ++ [name]) = .ok (place ++ [name]) := by
  refine Except.bind_eq_ok_iff.mpr ⟨place, ?_, ?_⟩
  · rw [List.dropLast_concat, hwalk]
  · simp [hthere, hname.ne_dot, hname.ne_dots, Nat.not_lt.mpr hname.short, hnew]
    rfl

/-- Putting a folder under a new name into the workplace adds one node and changes no other. -/
theorem put_folder (name : String)
    (h : Path.ofText path = ⟨false, [name], false⟩ ∧ IsName name ∧
      tree.node? workplace = some .folder ∧ tree.node? (workplace ++ [name]) = none ∧
      Path.check path = .ok ()) :
    tree.put path .folder = .ok (tree.setNode (workplace ++ [name]) .folder) := by
  obtain ⟨hpath, hname, hthere, hnew, hcheck⟩ := h
  have hplace := newPlace_of_new [] (by rw [walk]) hthere hname hnew
  have hdot : [name].getLast? ≠ some "." := by simpa using hname.ne_dot
  refine Except.bind_eq_ok_iff.mpr ⟨(), hcheck, ?_⟩
  simp only [hpath, hdot, decide_false, if_false]
  -- the only folder on the way is the one that is made
  refine Except.bind_eq_ok_iff.mpr ⟨tree.setNode (workplace ++ [name]) .folder, ?_, rfl⟩
  refine (if_neg (Bool.not_eq_true _ ▸ leadToFolder_of_new hname hnew)).trans ?_
  exact Except.bind_eq_ok_iff.mpr ⟨_, hplace, rfl⟩

/-- Putting an item under a new name into a folder that is there adds one node and changes no
other. -/
theorem put_child (folder name : String) {item : Item}
    (h : Path.ofText path = ⟨false, [folder, name], false⟩ ∧ IsName folder ∧ IsName name ∧
      tree.node? (workplace ++ [folder]) = some .folder ∧
      tree.node? (workplace ++ [folder, name]) = none ∧
      ∀ text ∈ path :: item.paths, Path.check text = .ok ()) :
    tree.put path item = .ok (tree.setNode (workplace ++ [folder, name]) item.node) := by
  obtain ⟨hpath, hfolder, hname, hthere, hnew, hchecks⟩ := h
  obtain ⟨hcheck, htarget⟩ := List.forall_mem_cons.mp hchecks
  have hlead := leadToFolder_of_folder hfolder hthere
  have hmade : tree.makeFolders workplace [folder] = .ok tree :=
    Except.bind_eq_ok_iff.mpr ⟨tree, if_pos hlead, rfl⟩
  -- nothing is made on the way, as the folder above is there
  have hplace : tree.newPlace workplace [folder, name] = .ok (workplace ++ [folder, name]) :=
    newPlace_of_new [folder] (walk_to_folder hfolder hthere) hthere hname hnew
  have hdot : [folder, name].getLast? ≠ some "." := by simpa using hname.ne_dot
  refine Except.bind_eq_ok_iff.mpr ⟨(), hcheck, ?_⟩
  simp only [hpath, hdot, decide_false, if_false]
  cases item with
  | file content =>
    -- the path is followed once more to the place of the file
    refine Except.bind_eq_ok_iff.mpr ⟨tree, hmade, ?_⟩
    refine Except.bind_eq_ok_iff.mpr ⟨workplace ++ [folder, name], ?_, ?_⟩
    · refine Except.bind_eq_ok_iff.mpr ⟨(), hcheck, ?_⟩
      refine Except.bind_eq_ok_iff.mpr ⟨workplace ++ [folder, name], ?_, ?_⟩
      · rw [hpath, startOf, if_neg Bool.false_ne_true, walk_folder hfolder hthere (.inr (by simp)),
          walk_new hname (by simpa using hnew), List.append_assoc]
        rfl
      · simp only [hnew]
        rfl
    · simp only [setContent, hnew]
      rfl
  | folder =>
    -- of the two folders on the way only the second is made
    have hnone : tree.leadToFolder workplace [folder, name] = false := by
      rw [leadToFolder, walk_folder hfolder hthere (.inl rfl)]
      exact leadToFolder_of_new hname hnew
    refine Except.bind_eq_ok_iff.mpr ⟨tree, if_pos hlead, ?_⟩
    refine Except.bind_eq_ok_iff.mpr ⟨tree.setNode (workplace ++ [folder, name]) .folder, ?_, rfl⟩
    refine (if_neg (Bool.not_eq_true _ ▸ hnone)).trans ?_
    exact Except.bind_eq_ok_iff.mpr ⟨_, hplace, rfl⟩
  -- a link is made at the new place, wherever it points to
  | link target =>
    refine Except.bind_eq_ok_iff.mpr ⟨tree, hmade, ?_⟩
    refine Except.bind_eq_ok_iff.mpr ⟨(), hcheck, ?_⟩
    refine Except.bind_eq_ok_iff.mpr ⟨(), htarget target List.mem_cons_self, ?_⟩
    refine Except.bind_eq_ok_iff.mpr ⟨workplace ++ [folder, name], ?_, ?_⟩
    · rw [hpath]
      exact hplace
    · simp only [hpath]
      rfl

end Tree

end PolicyReplay.Files
