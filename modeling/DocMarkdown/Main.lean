import DocMarkdown.CommandLine.Command

/-!
# The program

The command on the files of the system. What it does is decided by the library; this file reads,
writes and prints.
-/

namespace DocMarkdown.Program

/-- Why the system refuses access to a file. -/
def fileError : IO.Error → FileError
  | .noFileOrDirectory _ _ _ => .notFound
  | .alreadyExists _ _ _ => .alreadyThere
  | .inappropriateType _ 20 _ => .notDirectory
  | .inappropriateType _ 21 _ => .isDirectory
  | e => .other (toString e)

/-- Accesses a path, and names the path if that fails. -/
def access {α : Type} (path : String) (action : IO α) : ExceptT Error IO α := do
  match ← EIO.toBaseIO action with
  | .ok value => pure value
  | .error e => throw (.inaccessible path (fileError e))

/-- The path of a file as the root of an entry, which is how the system takes it. -/
def entryAt (path : String) : IO.FS.DirEntry := ⟨path, ""⟩

/-- The files directly inside a directory that have accepted names. -/
def readFiles (filters : Filters) (directory : String) : ExceptT Error IO (List SourceFile) := do
  if directory.isEmpty then throw (.inaccessible directory .notFound)
  let entries ← access directory (entryAt directory).root.readDir
  let mut files := []
  for entry in entries do
    let path := Path.join directory entry.fileName
    let metadata ← EIO.toBaseIO (entryAt path).root.metadata
    if metadata.toOption.any (·.type == .file) then
      if filters.acceptsName entry.fileName then
        let contents ← access path (IO.FS.readBinFile path)
        files := ⟨entry.fileName, contents⟩ :: files
  return files

/-- Writes files in order until one cannot be written. -/
def writeFiles (files : List (String × String)) : ExceptT Error IO Unit :=
  files.forM fun (path, text) => access path (IO.FS.writeBinFile path text.toUTF8)

/-- Carries a delivery out. -/
def carryOut (delivery : Delivery) : ExceptT Error IO Delivered := do
  match delivery with
  | .nothing | .stream _ => pure ()
  | .file path text => writeFiles [(path, text)]
  | .directory path files =>
    unless path.isEmpty do access path (IO.FS.createDirAll path)
    writeFiles files
  return delivery.outcome

/-- Runs a batch, and prints its warnings. -/
def runBatch (batch : Batch) : ExceptT Error IO Delivered := do
  batch.checkOutputs
  let filters ← batch.filters
  let files ← readFiles filters batch.directory
  for warning in filters.warnings batch.directory files do
    (IO.eprintln ("warning: " ++ warning) : IO Unit)
  let scan ← batch.scan filters files
  carryOut (batch.delivery scan.documents)

/-- Reports a failure with the causes behind it. -/
def reportFailure (failure : Failure) : IO Unit := do
  IO.eprintln ("Error: " ++ failure.message)
  unless failure.causes.isEmpty do
    IO.eprintln "\nCaused by:"
    for cause in failure.causes do
      IO.eprintln ("    " ++ cause)

/-- Prints what a part of the program comes to, and gives its status. -/
def finish (result : Except Failure String) : IO UInt32 := do
  match result with
  | .ok output => IO.print output; return 0
  | .error failure => reportFailure failure; return 1

/-- Runs a command on the files of the system. -/
def runCommand : Command → IO UInt32
  | .listLanguages => finish (.ok languageList)
  | .convertInput language level => do
    let input ← (← IO.getStdin).readBinToEnd
    finish (convertInput language level input)
  | .convertDirectory batch => do
    match Languages.builtIn.find batch.language with
    | .error e => finish (.error (.ofError e))
    | .ok _ =>
      let result ← (runBatch batch).run
      finish ((result.map Delivered.report).mapError (Failure.inDirectory batch.directory))

end DocMarkdown.Program

/-- Runs the command that the arguments spell. -/
def main (arguments : List String) : IO UInt32 := do
  match DocMarkdown.Command.ofArguments arguments with
  | .ok command => DocMarkdown.Program.runCommand command
  | .error .help => IO.print DocMarkdown.usage; return 0
  | .error (.mistake e) =>
    IO.eprintln ("error: " ++ e.message ++ "\n\nFor more information, try '--help'.")
    return 2
