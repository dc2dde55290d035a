/-!
# Errors

A doc comment is never an error: whatever its text, it is shown as well as it can be. What can fail
is the choice of a language, the options of a batch, and the access to files.

## Main definitions

* `FileError` — why a file or a directory cannot be accessed
* `Error` — why a conversion fails
* `Error.message` — the wording of an error
-/

namespace DocMarkdown

/-- Why a file or a directory cannot be accessed. -/
inductive FileError where
  | notFound
  | alreadyThere
  | notDirectory
  | isDirectory
  | nameTooLong
  | nulInName
  /-- Any other reason, in words. -/
  | other (reason : String)
deriving DecidableEq, Repr

/-- The wording of a reason, with its number where the system has one. -/
def FileError.message : FileError → String
  | notFound => "No such file or directory (os error 2)"
  | alreadyThere => "File exists (os error 17)"
  | notDirectory => "Not a directory (os error 20)"
  | isDirectory => "Is a directory (os error 21)"
  | nameTooLong => "File name too long (os error 36)"
  | nulInName => "file name contained an unexpected NUL byte"
  | other reason => reason

/-- Why a conversion fails. -/
inductive Error where
  /-- No dialect is registered under this name. -/
  | unknownLanguage (name : String)
  /-- A file or a directory cannot be accessed. -/
  | inaccessible (path : String) (reason : FileError)
  /-- A filter is not a pattern. -/
  | invalidPattern (pattern : String)
  /-- A directory and a file are both given for the documents. -/
  | ambiguousOutput
deriving DecidableEq, Repr

/-- The wording of an error. -/
def Error.message : Error → String
  | unknownLanguage name => "unsupported language: " ++ name
  | inaccessible path reason => "failed to access " ++ path ++ ": " ++ reason.message
  | invalidPattern pattern => "invalid pattern '" ++ pattern ++ "'"
  | ambiguousOutput => "only one of an output directory or an output file may be given"

end DocMarkdown
