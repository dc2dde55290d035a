import DocMarkdown.FileTree.Path
import Std.Data.ExtTreeMap

/-!
# File trees

A file tree holds the files and directories below one directory, the top. It knows contents and
names and nothing else: no links, no permissions, no times. Operations that fail say why, and
change nothing unless they say so.

## Main definitions

* `FileTree` — nodes by location
* `FileTree.locate` — what a path leads to
* `FileTree.files` — the files directly inside a directory
* `FileTree.writeFile`, `FileTree.removeFile` — write and remove a file
* `FileTree.makeDirectories` — make a directory and those above it

## Main results

* `node?_put` — putting a node changes its own location only
-/

namespace DocMarkdown

/-- Where a node stands: the names on the way from the top to it. -/
abbrev Location := List String

/-- What stands at a location. -/
inductive Node where
  | directory
  | file (contents : ByteArray)

/-- The files and directories below the top. -/
structure FileTree where
  nodes : Std.ExtTreeMap Location Node

/-- What a path leads to. -/
inductive Place where
  /-- A directory. -/
  | directory (location : Location)
  /-- A file. -/
  | file (location : Location) (contents : ByteArray)
  /-- Nothing yet, in a directory that is there. -/
  | vacant (location : Location)

namespace FileTree

/-- The tree that holds nothing below its top. -/
def empty : FileTree := ⟨∅⟩

/-- What stands at a location; the top itself is a directory. -/
def node? (tree : FileTree) (location : Location) : Option Node :=
  if location = [] then some .directory else tree.nodes[location]?

/-- The tree with a node put at a location. -/
def put (tree : FileTree) (location : Location) (node : Node) : FileTree :=
  ⟨tree.nodes.insert location node⟩

/-- The locations below the top where something stands, and what stands there. -/
def toList (tree : FileTree) : List (Location × Node) := tree.nodes.toList

/-- Putting a node changes its own location only. -/
theorem node?_put (tree : FileTree) (location other : Location) (node : Node) :
    (tree.put location node).node? other =
      if other = [] then some .directory
      else if location = other then some node else tree.node? other := by
  by_cases top : other = []
  · simp [node?, top]
  · simp [node?, put, top, Std.ExtTreeMap.getElem?_insert, Std.LawfulEqCmp.compare_eq_iff_eq]

/-! ### Following paths -/

/-- What a name means in a directory. -/
def look (tree : FileTree) (here : Location) (name : String) : Except FileError Place :=
  if name = "." then .ok (.directory here)
  else if name = ".." then .ok (.directory here.dropLast)
  else if Path.maxNameSize < name.utf8ByteSize then .error .nameTooLong
  else
    let location := here ++ [name]
    match tree.node? location with
    | some .directory => .ok (.directory location)
    | some (.file contents) => .ok (.file location contents)
    | none => .ok (.vacant location)

/-- The directory that a name means in a directory. -/
def enter (tree : FileTree) (here : Location) (name : String) : Except FileError Location := do
  match ← tree.look here name with
  | .directory location => .ok location
  | .file _ _ => .error .notDirectory
  | .vacant _ => .error .notFound

/-- What the names on a way lead to, starting at a directory. Every name but the last has to be a
directory. -/
def follow (tree : FileTree) : (here : Location) → List String → Except FileError Place
  | here, [] => .ok (.directory here)
  | here, [name] => tree.look here name
  | here, name :: names => do tree.follow (← tree.enter here name) names

/-- What a path leads to. -/
def locate (tree : FileTree) (path : String) : Except FileError Place := do
  tree.follow [] (← Path.names path)

/-! ### Reading -/

/-- What stands directly inside a directory, by name. -/
def entries (tree : FileTree) (directory : Location) : List (String × Node) :=
  tree.toList.filterMap fun (location, node) =>
    if location.dropLast = directory then location.getLast?.map (·, node) else none

/-- The files directly inside a directory, by name. A file is passed over if its path in the
directory is longer than a path may be. -/
def files (tree : FileTree) (path : String) : Except FileError (List (String × ByteArray)) := do
  match ← tree.locate path with
  | .directory location =>
    .ok ((tree.entries location).filterMap fun (name, node) =>
      match node with
      | .file contents =>
        if Path.isTooLong (Path.join path name) then none else some (name, contents)
      | .directory => none)
  | .file _ _ => .error .notDirectory
  | .vacant _ => .error .notFound

/-! ### Writing -/

/-- Writes a file in a directory that is there, in the place of a file of the same name. -/
def writeFile (tree : FileTree) (path : String) (contents : ByteArray) :
    Except FileError FileTree := do
  match ← tree.locate path with
  | .directory _ => .error .isDirectory
  | .file location _ | .vacant location =>
    if Path.endsInSlash path then .error .isDirectory
    else .ok (tree.put location (.file contents))

/-- Removes a file. -/
def removeFile (tree : FileTree) (path : String) : Except FileError FileTree := do
  match ← tree.locate path with
  | .directory _ => .error .isDirectory
  | .vacant _ => .error .notFound
  | .file location _ =>
    if Path.endsInSlash path then .error .notDirectory else .ok ⟨tree.nodes.erase location⟩

/-- Makes a directory where the names lead, unless something is there. -/
def makeDirectory (tree : FileTree) (names : List String) : Except FileError FileTree := do
  match ← tree.follow [] names with
  | .vacant location => .ok (tree.put location .directory)
  | _ => .error .alreadyThere

/-- Sees to it that the names lead to a directory. -/
def ensureDirectory (tree : FileTree) (names : List String) : Except FileError FileTree :=
  match tree.makeDirectory names with
  | .ok tree => .ok tree
  | .error e =>
    match tree.follow [] names with
    | .ok (.directory _) => .ok tree
    | _ => .error e

/-- Sees to it that each of several ways leads to a directory, until one cannot: the reason, if
there is one, and the tree with the directories made so far. -/
def ensureDirectories (tree : FileTree) : List (List String) → Except FileError Unit × FileTree
  | [] => (.ok (), tree)
  | names :: others =>
    match tree.ensureDirectory names with
    | .ok tree => tree.ensureDirectories others
    | .error e => (.error e, tree)

/-- The ways to the directories above the one that the names lead to, the nearest to the top
first. -/
def waysAbove (names : List String) : List (List String) :=
  let steps := names.filter (· ≠ ".")
  (List.range (steps.length - 1)).map fun n => steps.take (n + 1)

/-- Makes a directory, and those above it where they are missing. The empty path asks for nothing.
On failure the directories made before it stay. -/
def makeDirectories (tree : FileTree) (path : String) : Except FileError Unit × FileTree :=
  if path.isEmpty then (.ok (), tree)
  else
    match Path.names path with
    | .error e => (.error e, tree)
    | .ok names =>
      match tree.makeDirectory names with
      -- The way leads through a directory that is missing: make them all, from the top.
      | .error .notFound => tree.ensureDirectories (waysAbove names ++ [names])
      | _ => tree.ensureDirectories [names]

end FileTree

end DocMarkdown
