import DocMarkdown.Error
import DocMarkdown.Text.Cut

/-!
# Paths

A path names a file or a directory by the names on the way to it, with slashes between them. Slashes
may be repeated; `.` stays where it is and `..` goes back. All paths start at one directory, the top
of a file tree.

## Main definitions

* `Path.names` — the names on the way, unless the text cannot be a path
* `Path.join` — the path of a name in a directory
-/

namespace DocMarkdown.Path

/-- The greatest size of one name, in bytes. -/
def maxNameSize : Nat := 255

/-- The greatest size of a path, in bytes. -/
def maxSize : Nat := 4095

/-- The path is longer than a path may be. -/
def isTooLong (path : String) : Bool := maxSize < path.utf8ByteSize

/-- The path ends in a slash, and so can only mean a directory. -/
def endsInSlash (path : String) : Bool := path.toList.getLast? == some '/'

/-- The names on the way to what a path means. The empty text is no path, and a path from outside
the tree leads nowhere. -/
def names (path : String) : Except FileError (List String) :=
  let chars := path.toList
  if chars.contains (Char.ofNat 0) then .error .nulInName
  else if isTooLong path then .error .nameTooLong
  else if chars.isEmpty || chars.head? == some '/' then .error .notFound
  else .ok (((Text.pieces '/' chars).filter (!·.isEmpty)).map String.ofList)

/-- The path of a name in a directory. -/
def join (directory name : String) : String :=
  if directory.isEmpty || endsInSlash directory then directory ++ name
  else directory ++ "/" ++ name

end DocMarkdown.Path
