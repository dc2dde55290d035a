import DocMarkdown.Batch.Basic

/-!
# Arguments of the command

Arguments are read from left to right. An option is given by its long name or by a letter, and at
most once. Its value follows it: after an equals sign or in the next argument, and after a letter
also without anything between. A value in an argument of its own may not look like an option.

## Main definitions

* `OptionKey` — the options that have a value
* `UsageError` — what may be wrong with arguments
* `Settings` — the options that are given, with their values
* `Settings.read` — the settings that arguments spell
-/

namespace DocMarkdown

/-- The options that have a value. -/
inductive OptionKey where
  | language
  | level
  | sourceDirectory
  | outputDirectory
  | outputFile
  | namePattern
  | contentsPattern
deriving DecidableEq, Repr

/-- What an argument may name: an option with a value, or one of the two without. -/
inductive OptionName where
  | valued (key : OptionKey)
  | listLanguages
  | help
deriving DecidableEq, Repr

namespace OptionName

/-- The option of a long name. Names may not be shortened. -/
def ofLong? : String → Option OptionName
  | "language" => some (valued .language)
  | "headings-level" => some (valued .level)
  | "src-dir" => some (valued .sourceDirectory)
  | "output-dir" => some (valued .outputDirectory)
  | "output-file" => some (valued .outputFile)
  | "include-filenames" => some (valued .namePattern)
  | "include-file-contents" => some (valued .contentsPattern)
  | "list-languages" => some listLanguages
  | "help" => some help
  | _ => none

/-- The option of a letter. -/
def ofLetter? : Char → Option OptionName
  | 'l' => some (valued .language)
  | 'H' => some (valued .level)
  | 's' => some (valued .sourceDirectory)
  | 'o' => some (valued .outputDirectory)
  | 'O' => some (valued .outputFile)
  | 'h' => some help
  | _ => none

end OptionName

/-- The long name of an option that has a value. -/
def OptionKey.long : OptionKey → String
  | language => "language"
  | level => "headings-level"
  | sourceDirectory => "src-dir"
  | outputDirectory => "output-dir"
  | outputFile => "output-file"
  | namePattern => "include-filenames"
  | contentsPattern => "include-file-contents"

/-- What may be wrong with arguments. -/
inductive UsageError where
  | unexpectedArgument (argument : String)
  | missingValue (option : String)
  | unexpectedValue (option : String)
  | invalidValue (option value : String)
  | repeatedOption (option : String)
  | conflictingOptions (first second : String)
  | missingOption (option : String)
deriving DecidableEq, Repr

/-- The wording of a mistake. -/
def UsageError.message : UsageError → String
  | unexpectedArgument argument => "unexpected argument '" ++ argument ++ "' found"
  | missingValue option => "a value is required for '--" ++ option ++ "' but none was supplied"
  | unexpectedValue option => "no value is allowed for '--" ++ option ++ "'"
  | invalidValue option value => "invalid value '" ++ value ++ "' for '--" ++ option ++ "'"
  | repeatedOption option => "the argument '--" ++ option ++ "' cannot be used multiple times"
  | conflictingOptions first second =>
    "the argument '--" ++ first ++ "' cannot be used with '--" ++ second ++ "'"
  | missingOption option => "the argument '--" ++ option ++ "' was not provided"

/-- Why reading arguments ends early. -/
inductive Halt where
  /-- Help is asked for. -/
  | help
  | mistake (e : UsageError)
deriving DecidableEq, Repr

/-- The options that are given, with their values. -/
structure Settings where
  language : Option String := none
  level : Option Nat := none
  sourceDirectory : Option String := none
  outputDirectory : Option String := none
  outputFile : Option String := none
  namePattern : Option String := none
  contentsPattern : Option String := none
  listLanguages : Bool := false
deriving DecidableEq, Repr

/-- The least and the greatest heading level of a title. -/
def levelRange : Nat × Nat := (1, 6)

/-- Reads a heading level: a decimal number in the range of levels, with a plus sign or without. -/
def readLevel? (value : String) : Option Nat :=
  let digits := match value.toList with
    | '+' :: rest => rest
    | rest => rest
  let n := digits.foldl (fun n c => 10 * n + (c.toNat - '0'.toNat)) 0
  if !digits.isEmpty && digits.all Char.isDigit && levelRange.1 ≤ n && n ≤ levelRange.2 then some n
  else none

namespace Settings

/-- Gives a value to an option that has none. -/
def give {α : Type} (key : OptionKey) (old : Option α) (value : String) (read? : String → Option α)
    (set : Option α → Settings) : Except UsageError Settings :=
  match old, read? value with
  | _, none => .error (.invalidValue key.long value)
  | some _, some _ => .error (.repeatedOption key.long)
  | none, some new => .ok (set (some new))

/-- A path that an option may have as its value. -/
def readPath? (value : String) : Option String := if value.isEmpty then none else some value

variable (s : Settings)

/-- Gives an option its value. -/
def set (key : OptionKey) (value : String) : Except UsageError Settings :=
  match key with
  | .language => give key s.language value some fun v => { s with language := v }
  | .level => give key s.level value readLevel? fun v => { s with level := v }
  | .sourceDirectory =>
    give key s.sourceDirectory value readPath? fun v => { s with sourceDirectory := v }
  | .outputDirectory =>
    give key s.outputDirectory value readPath? fun v => { s with outputDirectory := v }
  | .outputFile => give key s.outputFile value readPath? fun v => { s with outputFile := v }
  | .namePattern => give key s.namePattern value some fun v => { s with namePattern := v }
  | .contentsPattern =>
    give key s.contentsPattern value some fun v => { s with contentsPattern := v }

/-- Asks for the list of languages. -/
def askForLanguages : Except UsageError Settings :=
  if s.listLanguages then .error (.repeatedOption "list-languages")
  else .ok { s with listLanguages := true }

/-- An argument that cannot be the value of the option before it. -/
def looksLikeOption (argument : String) : Bool :=
  match argument.toList with
  | '-' :: _ :: _ => true
  | _ => false

/-- An argument with an option: the option, and the value that comes with it. -/
def splitOption? (argument : String) : Option (OptionName × Option String) :=
  match argument.toList with
  | '-' :: '-' :: long => do
    let name ← OptionName.ofLong? (String.ofList (long.takeWhile (· != '=')))
    match long.dropWhile (· != '=') with
    | [] => some (name, none)
    | _ :: value => some (name, some (String.ofList value))
  | '-' :: letter :: rest => do
    let name ← OptionName.ofLetter? letter
    match name, rest with
    -- Nothing after the letter for help is looked at.
    | .help, _ | _, [] => some (name, none)
    | _, '=' :: value | _, value => some (name, some (String.ofList value))
  | _ => none

/-- Reads arguments on top of settings. Nothing may follow the argument that ends the options. -/
def readOnto : Settings → List String → Except Halt Settings
  | s, [] => .ok s
  | s, "--" :: rest =>
    match rest with
    | [] => .ok s
    | argument :: _ => .error (.mistake (.unexpectedArgument argument))
  | s, argument :: rest =>
    match splitOption? argument with
    | none => .error (.mistake (.unexpectedArgument argument))
    | some (.help, none) => .error .help
    | some (.help, some _) => .error (.mistake (.unexpectedValue "help"))
    | some (.listLanguages, none) => do
      readOnto (← s.askForLanguages.mapError .mistake) rest
    | some (.listLanguages, some _) => .error (.mistake (.unexpectedValue "list-languages"))
    | some (.valued key, some value) => do readOnto (← (s.set key value).mapError .mistake) rest
    | some (.valued key, none) =>
      match rest with
      | [] => .error (.mistake (.missingValue key.long))
      | value :: rest =>
        if looksLikeOption value then .error (.mistake (.missingValue key.long))
        else do readOnto (← (s.set key value).mapError .mistake) rest

/-- Settings that go together: at most one place for documents, and a source directory for it. -/
def check : Except UsageError Settings :=
  if s.outputDirectory.isSome && s.outputFile.isSome then
    .error (.conflictingOptions "output-dir" "output-file")
  else if (s.outputDirectory.isSome || s.outputFile.isSome) && s.sourceDirectory.isNone then
    .error (.missingOption "src-dir")
  else .ok s

/-- The settings that arguments spell. -/
def read (arguments : List String) : Except Halt Settings := do
  (← readOnto {} arguments).check.mapError .mistake

end Settings

end DocMarkdown
