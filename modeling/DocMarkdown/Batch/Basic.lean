import DocMarkdown.Error
import DocMarkdown.Pattern.Program
import DocMarkdown.Pattern.Reader

/-!
# Batches

A batch converts the files of one directory. It says how files are chosen and converted, and where
the documents go.

## Main definitions

* `Batch` — a batch, with what it does unless told otherwise
* `Filters` — which names and which contents are accepted
* `Batch.filters` — the filters that a batch asks for
-/

namespace DocMarkdown

/-- The language of comments where none is given. -/
def defaultLanguage : String := "javadoc"

/-- The heading level of documents where none is given. -/
def defaultLevel : Nat := 2

/-- A batch. -/
structure Batch where
  /-- The directory that holds the files to convert. -/
  directory : String
  language : String := defaultLanguage
  level : Nat := defaultLevel
  /-- A pattern for the names of the files to convert; all names if there is none. -/
  namePattern : Option String := none
  /-- A pattern for the contents of the files to convert; all but blank contents if there is
  none. -/
  contentsPattern : Option String := none
  /-- A directory for one document per file. -/
  outputDirectory : Option String := none
  /-- A file for all documents. -/
  outputFile : Option String := none
deriving DecidableEq, Repr

/-- Which names and which contents are accepted. -/
structure Filters where
  acceptsName : String → Bool
  acceptsContents : String → Bool

/-- Accepts the texts that a pattern occurs in. -/
def acceptMatching (pattern : String) : Except Error (String → Bool) :=
  match Pattern.ofString? pattern with
  | some p =>
    let program := p.program
    .ok fun s => program.occursIn s.toList
  | none => .error (.invalidPattern pattern)

namespace Batch

variable (batch : Batch)

/-- Accepts all names, or those that a pattern occurs in. -/
def nameFilter : Except Error (String → Bool) :=
  match batch.namePattern with
  | some pattern => acceptMatching pattern
  | none => .ok fun _ => true

/-- Accepts all contents that are not blank, or those that a pattern occurs in. -/
def contentsFilter : Except Error (String → Bool) :=
  match batch.contentsPattern with
  | some pattern => acceptMatching pattern
  | none => .ok fun contents => !Text.blank contents.toList

/-- The filters that a batch asks for. The pattern for names is looked at first. -/
def filters : Except Error Filters := do
  let acceptsName ← batch.nameFilter
  let acceptsContents ← batch.contentsFilter
  .ok ⟨acceptsName, acceptsContents⟩

end Batch

end DocMarkdown
