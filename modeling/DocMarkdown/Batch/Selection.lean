import DocMarkdown.Batch.Basic
import DocMarkdown.FileTree.Basic
import DocMarkdown.Languages

/-!
# The documents of a directory

Of the files directly inside a directory, those with an accepted name are read, and those of them
with accepted contents are converted. A document goes by the name of its file up to the first dot.
Of several files with one such name, the last by the order of file names is the one converted.

## Main definitions

* `SourceFile` — a file by its name in the directory
* `convertAll` — the documents of sources, by name
* `Filters.named` — the files with accepted names, in order
* `Filters.sources` — the contents to convert, by name
* `Batch.scan` — the documents of listed files
* `Batch.documents` — the documents of a directory
-/

namespace DocMarkdown

/-- A file directly inside a directory: its name there and its contents. -/
structure SourceFile where
  name : String
  contents : ByteArray

/-- Texts by name, in the order of names. -/
abbrev Named := Std.ExtTreeMap String String

/-- The documents of sources in a built-in language, under the names of the sources. -/
def convertAll (language : String) (sources : Named) (level : Nat) : Except Error Named :=
  (Languages.builtIn.find language).map fun dialect =>
    sources.map fun _ code => dialect.convert code level

namespace SourceFile

/-- The name of a file up to its first dot; empty for a file whose name starts with one. -/
def stem (file : SourceFile) : String :=
  String.ofList (file.name.toList.takeWhile (· != '.'))

/-- The contents of a file, if they are text. -/
def text? (file : SourceFile) : Option String := String.fromUTF8? file.contents

end SourceFile

namespace Filters

variable (filters : Filters)

/-- The files with accepted names, in the order of names. -/
def named (files : List SourceFile) : List SourceFile :=
  (files.filter (filters.acceptsName ·.name)).mergeSort fun a b => a.name ≤ b.name

/-- What a file gives to convert: its name up to the first dot, and its contents if they are text
and accepted. -/
def source? (file : SourceFile) : Option (String × String) := do
  let contents ← file.text?
  if filters.acceptsContents contents then some (file.stem, contents) else none

/-- The contents to convert, by name; of two files with the same name the later one counts. -/
def sources (files : List SourceFile) : Named :=
  ((filters.named files).filterMap filters.source?).foldl
    (fun sources (name, contents) => sources.insert name contents) ∅

/-- What there is to warn of: no file with an accepted name, or else each such file that is not
text. -/
def warnings (directory : String) (files : List SourceFile) : List String :=
  match filters.named files with
  | [] => ["no files matched in " ++ directory]
  | files =>
    (files.filter (·.text?.isNone)).map fun file =>
      "skipping " ++ Path.join directory file.name ++ ": not valid UTF-8"

end Filters

/-- The files directly inside a directory of a tree. -/
def FileTree.sourceFiles (tree : FileTree) (directory : String) : Except Error (List SourceFile) :=
  match tree.files directory with
  | .ok files => .ok (files.map fun (name, contents) => ⟨name, contents⟩)
  | .error reason => .error (.inaccessible directory reason)

/-- The documents of a directory, and what there was to warn of. -/
structure Scan where
  warnings : List String
  documents : Named

namespace Batch

variable (batch : Batch)

/-- The documents of files that are listed in any order. -/
def scan (filters : Filters) (files : List SourceFile) : Except Error Scan :=
  (convertAll batch.language (filters.sources files) batch.level).map
    fun documents => ⟨filters.warnings batch.directory files, documents⟩

/-- The documents of the directory. Patterns are looked at before the directory, and the directory
before the language. -/
def scanTree (tree : FileTree) : Except Error Scan := do
  let filters ← batch.filters
  let files ← tree.sourceFiles batch.directory
  batch.scan filters files

/-- The documents of the directory, by name. -/
def documents (tree : FileTree) : Except Error Named := (batch.scanTree tree).map (·.documents)

end Batch

end DocMarkdown
