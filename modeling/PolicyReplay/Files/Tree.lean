import PolicyReplay.Files.Basic
import PolicyReplay.Files.System

/-!
# A file tree as a value

Files, folders and symbolic links held in memory on top of what every system holds, each at its
place: the names that lead to it from the root. Paths are followed name by name; a link is replaced
by its target, and at most `maxLinks` links are followed on one path. Making a file asks more of a
path than reading one: its last name may lead to nothing yet, but has to be a name for a file.
-/

namespace PolicyReplay.Files

/-- All that has been made, by place. -/
structure Tree where
  nodes : List (Place × Node) := []

namespace Tree

/-- What stands at a place. -/
def node? (tree : Tree) (place : Place) : Option Node :=
  (tree.nodes.lookup place).or (systemNode? place)

/-- Put a node at a place in the stead of what is there. -/
def setNode (tree : Tree) (place : Place) (node : Node) : Tree :=
  if (tree.nodes.lookup place).isSome then
    ⟨tree.nodes.map fun (p, n) => if p = place then (p, node) else (p, n)⟩
  else ⟨tree.nodes ++ [(place, node)]⟩

/-- How many links may be followed on one path. -/
def maxLinks : Nat := 40

/-- Where a path starts that is read in a folder. -/
def startOf (folder : Place) (path : Path) : Place := if path.absolute then [] else folder

/-- Follow names from a place. Every name but the last leads to a folder, and so does the last one
if the path is closed. In `making` a file the last name is that of the file. -/
def walk (tree : Tree) (making : Bool) (links : Nat) (place : Place) (todo : List String)
    (closed : Bool) : Except SystemError Place :=
  match todo with
  | [] => .ok place
  | name :: todo =>
    let last := todo.isEmpty
    if last && making && (closed || name = "." || name = "..") then .error .isAFolder
    else if name = "." then walk tree making links place todo closed
    else if name = ".." then walk tree making links place.dropLast todo closed
    else if Path.maxName < name.utf8ByteSize then .error .nameTooLong
    else
      let next := place ++ [name]
      match tree.node? next with
      | none => if last then .ok next else .error .notFound
      | some .folder => walk tree making links next todo closed
      | some (.link target) =>
        match links with
        | 0 => .error .tooManyLinks
        | links + 1 =>
          let path := Path.ofText target
          walk tree making links (startOf place path) (path.names ++ todo)
            (if last then closed || path.closed else closed)
      | some _ => if last && !closed then .ok next else .error .notAFolder
termination_by (links, todo.length)

/-- The place to which a path leads, links followed. -/
def locate (tree : Tree) (folder : Place) (path : String) : Except SystemError Place := do
  Path.check path
  let path := Path.ofText path
  tree.walk false maxLinks (startOf folder path) path.names path.closed

/-- The place of the file that is made or written at a path, links followed. -/
def locateFile (tree : Tree) (folder : Place) (path : String) : Except SystemError Place := do
  Path.check path
  let path := Path.ofText path
  let place ← tree.walk true maxLinks (startOf folder path) path.names path.closed
  match tree.node? place with
  | some .folder => throw .isAFolder
  | _ => return place

/-- The octets at a place. A device that gives zeros without end is taken to give none. -/
def contentAt (tree : Tree) (place : Place) : Except SystemError Bytes :=
  match tree.node? place with
  | some (.file content) => .ok content
  | some .folder => .error .isAFolder
  | some (.program _) => .ok programContent
  | some (.device _) => .ok []
  | some (.link _) | none => .error .notFound

/-- The octets of the file to which a path leads. -/
def read (tree : Tree) (folder : Place) (path : String) : Except SystemError Bytes := do
  tree.contentAt (← tree.locate folder path)

/-- Replace the octets at a place. -/
def setContent (tree : Tree) (place : Place) (content : Bytes) : Except SystemError Tree :=
  match tree.node? place with
  | some (.device .full) => if content.isEmpty then .ok tree else .error .noSpace
  | some (.device _) => .ok tree
  | _ => .ok (tree.setNode place (.file content))

/-- Write a file. The folder that is to hold it is there already. -/
def write (tree : Tree) (folder : Place) (path : String) (content : Bytes) :
    Except SystemError Tree := do
  tree.setContent (← tree.locateFile folder path) content

/-- The nodes that have been made in a folder, with their names. -/
def children (tree : Tree) (place : Place) : List (String × Node) :=
  tree.nodes.filterMap fun (p, node) =>
    match p.getLast? with
    | some name => if p.dropLast = place then some (name, node) else none
    | none => none

/-- The entries of the folder to which a path leads. -/
def list (tree : Tree) (folder : Place) (path : String) : Except SystemError (List Entry) := do
  let place ← tree.locate folder path
  match tree.node? place with
  | some .folder =>
    return (tree.children place).map fun (name, node) =>
      ⟨Text.encode name.toList, node matches .file _⟩
  | some _ => throw .notAFolder
  | none => throw .notFound

/-- The place at which the names lead to something new. The names before the last one lead to a
folder, and the last one leads to nothing. -/
def newPlace (tree : Tree) (start : Place) (names : List String) : Except SystemError Place := do
  let parent ← tree.walk false maxLinks start names.dropLast true
  match tree.node? parent with
  | some .folder =>
    match names.getLast? with
    | none | some "." | some ".." => throw .alreadyThere
    | some name =>
      if Path.maxName < name.utf8ByteSize then throw .nameTooLong
      let place := parent ++ [name]
      if (tree.node? place).isSome then throw .alreadyThere else return place
  | some _ => throw .notAFolder
  | none => throw .notFound

/-- Whether names lead to a folder. -/
def leadToFolder (tree : Tree) (start : Place) (names : List String) : Bool :=
  match tree.walk false maxLinks start names true with
  | .ok place => tree.node? place = some .folder
  | .error _ => false

/-- Make the folders to which the names lead, one after the other, unless they are there. -/
def makeFolders (tree : Tree) (start : Place) (names : List String) : Except SystemError Tree :=
  (List.range names.length).foldlM (fun tree depth => do
    let above := names.take (depth + 1)
    if tree.leadToFolder start above then return tree
    return tree.setNode (← tree.newPlace start above) .folder) tree

/-- Make a link. -/
def makeLink (tree : Tree) (folder : Place) (path target : String) : Except SystemError Tree := do
  Path.check path
  Path.check target
  let path := Path.ofText path
  let place ← tree.newPlace (startOf folder path) path.names
  if path.closed then throw .notFound
  return tree.setNode place (.link target)

/-- What can be put into a folder. -/
inductive Item where
  | file (content : Bytes)
  | folder
  | link (target : String)
  deriving DecidableEq, Repr

/-- Put an item at a path in the workplace, with the folders that lead to it. A folder whose path
ends in the name `.` has to be there when those are made. -/
def put (tree : Tree) (path : String) (item : Item) : Except SystemError Tree := do
  Path.check path
  let names := (Path.ofText path).names
  let dotted := names.getLast? = some "."
  let names := if dotted then names.dropLast else names
  match item with
  | .folder =>
    if !dotted then return ← tree.makeFolders workplace names
    let tree ← tree.makeFolders workplace names.dropLast
    if tree.leadToFolder workplace names then return tree else throw .notFound
  | .file content =>
    let tree ← tree.makeFolders workplace names.dropLast
    tree.write workplace path content
  | .link target =>
    let tree ← tree.makeFolders workplace names.dropLast
    tree.makeLink workplace path target

/-- The tree that comes of putting items at their paths, one after the other. -/
def ofItems (items : List (String × Item)) : Except SystemError Tree :=
  items.foldlM (fun tree item => tree.put item.1 item.2) {}

/-- The answers that a tree gives in the workplace. -/
def files (tree : Tree) : Files where
  read := tree.read workplace
  list := tree.list workplace
  write := fun path content => (tree.write workplace path content).map fun _ => ()

end Tree
end PolicyReplay.Files
