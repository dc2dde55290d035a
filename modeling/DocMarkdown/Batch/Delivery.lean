import DocMarkdown.Batch.Selection

/-!
# Delivering documents

The documents of a batch go to a stream, to one file, or to a directory with one file for each.
Where they go is decided before anything is written; carrying it out may then fail at any file,
with those before it written.

## Main definitions

* `Delivery` — what is to be written where
* `Batch.delivery` — the delivery that a batch asks for
* `Delivery.carryOut` — a delivery in a file tree
* `Batch.run` — a whole batch in a file tree
-/

namespace DocMarkdown

/-- What is to be written where. -/
inductive Delivery where
  | nothing
  | stream (text : String)
  | file (path text : String)
  /-- Files by their paths, in a directory to be made. -/
  | directory (path : String) (files : List (String × String))
deriving DecidableEq, Repr

/-- A document with its name as a title. -/
def titled (name document : String) : String := "# " ++ name ++ "\n\n" ++ document

namespace Batch

variable (batch : Batch)

/-- One place at most may be given for the documents. -/
def checkOutputs : Except Error Unit :=
  if batch.outputDirectory.isSome && batch.outputFile.isSome then .error .ambiguousOutput
  else .ok ()

/-- The delivery that a batch asks for: each document with its name as a title, and on a stream with
a line feed after it. A file is not written for no documents; a directory is made all the same. -/
def delivery (documents : Named) : Delivery :=
  let documents := documents.toList.map fun (name, document) => (name, titled name document)
  match batch.outputFile, batch.outputDirectory with
  | some path, _ =>
    if documents.isEmpty then .nothing else .file path ("\n".intercalate (documents.map (·.2)))
  | none, some path =>
    .directory path
      (documents.map fun (name, document) => (Path.join path (name ++ ".md"), document))
  | none, none => .stream (String.join (documents.map fun (_, document) => document ++ "\n"))

end Batch

/-- What a batch has done: the paths it has written, and the text on its stream. -/
structure Delivered where
  written : List String
  stream : String
deriving DecidableEq, Repr

/-- Writes files in order until one cannot be written: the error, if there is one, and the tree with
the files written so far. -/
def FileTree.writeFiles (tree : FileTree) : List (String × String) → Except Error Unit × FileTree
  | [] => (.ok (), tree)
  | (path, text) :: files =>
    match tree.writeFile path text.toUTF8 with
    | .ok tree => tree.writeFiles files
    | .error reason => (.error (.inaccessible path reason), tree)

namespace Delivery

/-- The paths that a delivery writes, and the text that it puts on a stream. -/
def outcome : Delivery → Delivered
  | nothing => ⟨[], ""⟩
  | stream text => ⟨[], text⟩
  | file path _ => ⟨[path], ""⟩
  | directory _ files => ⟨files.map (·.1), ""⟩

/-- Carries a delivery out in a file tree: nothing, or why it failed, and the tree it leaves. -/
def write (delivery : Delivery) (tree : FileTree) : Except Error Unit × FileTree :=
  match delivery with
  | nothing | stream _ => (.ok (), tree)
  | file path text => tree.writeFiles [(path, text)]
  | directory path files =>
    match tree.makeDirectories path with
    | (.ok (), tree) => tree.writeFiles files
    | (.error reason, tree) => (.error (.inaccessible path reason), tree)

/-- Carries a delivery out in a file tree: what it has done, or why it failed, and the tree it
leaves. -/
def carryOut (delivery : Delivery) (tree : FileTree) : Except Error Delivered × FileTree :=
  ((delivery.write tree).1.map fun _ => delivery.outcome, (delivery.write tree).2)

end Delivery

namespace Batch

variable (batch : Batch)

/-- What a batch is to deliver, and what there was to warn of. -/
def plan (tree : FileTree) : Except Error (List String × Delivery) := do
  batch.checkOutputs
  let scan ← batch.scanTree tree
  .ok (scan.warnings, batch.delivery scan.documents)

/-- Runs a batch in a file tree: what it has done, or why it failed, and the tree it leaves. -/
def run (tree : FileTree) : Except Error Delivered × FileTree :=
  match batch.plan tree with
  | .ok (_, delivery) => delivery.carryOut tree
  | .error e => (.error e, tree)

end Batch

end DocMarkdown
