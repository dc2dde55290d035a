import DocMarkdown.Batch.Delivery
import DocMarkdown.CommandLine.Settings

/-!
# The command

The command lists the languages, converts its standard input, or converts a directory. It succeeds
with status 0 and fails with status 1; with status 2 it rejects its arguments and does nothing.

## Main definitions

* `Command` — what arguments ask for
* `Command.ofArguments` — the command that arguments spell
* `Failure` — why a command fails, with the causes behind it
* `Outcome` — what a command leaves behind
* `Command.run` — a command in a file tree
* `run` — the command that arguments spell, in a file tree
-/

namespace DocMarkdown

/-- What arguments ask for. -/
inductive Command where
  | listLanguages
  | convertInput (language : String) (level : Nat)
  | convertDirectory (batch : Batch)
deriving DecidableEq, Repr

namespace Settings

variable (s : Settings)

/-- The batch for a directory. -/
def batch (directory : String) : Batch where
  directory := directory
  language := s.language.getD defaultLanguage
  level := s.level.getD defaultLevel
  namePattern := s.namePattern
  contentsPattern := s.contentsPattern
  outputDirectory := s.outputDirectory
  outputFile := s.outputFile

/-- What settings ask for. Without a source directory the standard input is converted, and what
concerns batches only means nothing. -/
def command : Command :=
  if s.listLanguages then .listLanguages
  else
    match s.sourceDirectory with
    | some directory => .convertDirectory (s.batch directory)
    | none => .convertInput (s.language.getD defaultLanguage) (s.level.getD defaultLevel)

end Settings

/-- The command that arguments spell. -/
def Command.ofArguments (arguments : List String) : Except Halt Command :=
  (Settings.read arguments).map (·.command)

/-- Why a command fails: what it was about, and the causes, the nearest first. -/
structure Failure where
  message : String
  causes : List String
deriving DecidableEq, Repr

namespace Failure

/-- An error by itself. -/
def ofError (e : Error) : Failure := ⟨e.message, []⟩

/-- An error in the conversion of a directory. -/
def inDirectory (directory : String) (e : Error) : Failure where
  message := "failed to convert " ++ directory
  causes := e.message ::
    match e with
    | .inaccessible _ reason => [reason.message]
    | _ => []

/-- The standard input is not text. -/
def unreadableInput : Failure :=
  ⟨"failed to read stdin", ["stream did not contain valid UTF-8"]⟩

end Failure

/-- The document of the standard input. The language is looked up before the input is read. -/
def convertInput (language : String) (level : Nat) (input : ByteArray) : Except Failure String := do
  let dialect ← (Languages.builtIn.find language).mapError .ofError
  match String.fromUTF8? input with
  | some code => .ok (dialect.convert code level)
  | none => .error .unreadableInput

/-- What the command prints for a batch: its stream, and the files it has written, if any. -/
def Delivered.report (delivered : Delivered) : String :=
  delivered.stream ++
    if delivered.written.isEmpty then ""
    else "Markdown files:\n" ++ String.join (delivered.written.map fun path => "  " ++ path ++ "\n")

/-- The list of languages, one on each line. -/
def languageList : String := String.join (Languages.builtIn.names.map (· ++ "\n"))

/-- What a command leaves behind: its status, its output, its warnings, why it failed, and the file
tree. -/
structure Outcome where
  status : Nat
  output : String
  warnings : List String
  failure : Option Failure
  tree : FileTree

namespace Outcome

/-- Success with nothing to warn of. -/
def success (output : String) (tree : FileTree) : Outcome := ⟨0, output, [], none, tree⟩

/-- Failure without output. -/
def failed (failure : Failure) (warnings : List String) (tree : FileTree) : Outcome :=
  ⟨1, "", warnings, some failure, tree⟩

/-- Arguments that are rejected. -/
def rejected (e : UsageError) (tree : FileTree) : Outcome :=
  ⟨2, "", [], some ⟨e.message, []⟩, tree⟩

end Outcome

/-- How the command is used. -/
def usage : String := String.join [
  "Usage: javadoc-md [OPTIONS]\n\nOptions:\n",
  "  -l, --language <LANGUAGE>          Comment style: javadoc, phpdoc, jsdoc [default: javadoc]\n",
  "  -H, --headings-level <LEVEL>       Heading level of the title, 1 to 6 [default: 2]\n",
  "  -s, --src-dir <DIR>                Convert this directory instead of standard input\n",
  "  -o, --output-dir <DIR>             Write one file per document into this directory\n",
  "  -O, --output-file <FILE>           Write all documents into this file\n",
  "      --include-filenames <PATTERN>  Convert only files with a matching name\n",
  "      --include-file-contents <PATTERN>\n",
  "                                     Convert only files with matching contents\n",
  "      --list-languages               Print the languages\n",
  "  -h, --help                         Print this help\n"]

namespace Command

/-- A batch in a file tree. The language is looked up before anything else. -/
def runBatch (batch : Batch) (tree : FileTree) : Outcome :=
  match Languages.builtIn.find batch.language with
  | .error e => .failed (.ofError e) [] tree
  | .ok _ =>
    match batch.plan tree with
    | .error e => .failed (.inDirectory batch.directory e) [] tree
    | .ok (warnings, delivery) =>
      match delivery.carryOut tree with
      | (.ok delivered, tree) => ⟨0, delivered.report, warnings, none, tree⟩
      | (.error e, tree) => .failed (.inDirectory batch.directory e) warnings tree

/-- A command on a standard input, in a file tree. -/
def run (command : Command) (input : ByteArray) (tree : FileTree) : Outcome :=
  match command with
  | listLanguages => .success languageList tree
  | convertInput language level =>
    match DocMarkdown.convertInput language level input with
    | .ok document => .success document tree
    | .error failure => .failed failure [] tree
  | convertDirectory batch => runBatch batch tree

end Command

/-- The command that arguments spell, on a standard input, in a file tree. -/
def run (arguments : List String) (input : ByteArray) (tree : FileTree) : Outcome :=
  match Command.ofArguments arguments with
  | .ok command => command.run input tree
  | .error .help => .success usage tree
  | .error (.mistake e) => .rejected e tree

end DocMarkdown
