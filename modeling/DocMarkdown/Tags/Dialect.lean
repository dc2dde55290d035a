import DocMarkdown.Comment.Basic
import DocMarkdown.Tags.Groups
import DocMarkdown.Tags.TypeStyle
import DocMarkdown.Text.Fields

/-!
# Dialects of doc comments

A dialect says what the tags of a comment mean. All dialects share one table of recognised tags,
which names the group that a tag belongs to and the way its value is shown. They differ in where
types are written: in the code, or in the comment.

## Main definitions

* `Dialect` — where types are written
* `ValueKind`, `recognised` — how values are shown, and the table of tags
* `Dialect.place?` — the group of a tag and its item there
* `Dialect.groups` — the groups that a list of tags makes up
-/

namespace DocMarkdown

/-- A dialect of doc comments. -/
inductive Dialect where
  /-- Types stand in the code: a parameter is its name and a description. -/
  | plain
  /-- Types stand in the comment: a parameter is its type, its name and a description. -/
  | typed (style : TypeStyle)

/-- How the value of a tag is shown. -/
inductive ValueKind where
  /-- As it stands. -/
  | prose
  /-- Not at all. -/
  | flag
  /-- As code. -/
  | code
  /-- As a type and a description. -/
  | typed
  /-- As a parameter and a description. -/
  | parameter
  /-- As a type and a description where comments state types, and else as it stands. -/
  | result
  /-- As a type and a description where comments state types, and else left out. -/
  | variableType
deriving DecidableEq, Repr

/-- The recognised tags: the key of each, its group, and how its value is shown. -/
def recognised : List (String × String × ValueKind) := [
  ("abstract", "Abstract", .prose),
  ("access", "Access", .prose),
  ("alias", "Alias", .prose),
  ("name", "Alias", .prose),
  ("author", "Author", .prose),
  ("constructor", "Constructor", .flag),
  ("copyright", "Copyright", .prose),
  ("deprec", "Deprecated", .flag),
  ("deprecated", "Deprecated", .flag),
  ("example", "Example", .prose),
  ("exception", "Exceptions", .typed),
  ("throws", "Exceptions", .typed),
  ("exports", "Exports", .prose),
  ("license", "License", .prose),
  ("link", "Link", .prose),
  ("package", "Package", .prose),
  ("param", "Parameters", .parameter),
  ("private", "Private", .flag),
  ("return", "Returns", .result),
  ("returns", "Returns", .result),
  ("see", "See also", .prose),
  ("since", "Since", .prose),
  ("static", "Static", .prose),
  ("subpackage", "Sub-package", .prose),
  ("this", "This", .code),
  ("todo", "To-do", .prose),
  ("var", "Type", .variableType),
  ("version", "Version", .prose)]

namespace Dialect

/-- A type by itself. -/
def showType : Dialect → Text → Text
  | plain => inlineCode
  | typed style => style.showType

/-- A value that begins with a type: the type and the description after it. -/
def showTyped (d : Dialect) (value : Text) : Text :=
  let (type, description) := Text.splitWord value
  d.showType type ++ dash ++ description

/-- A value that begins with a parameter: the parameter and the description after it. -/
def showParameter : Dialect → Text → Text
  | plain, value => showTyped plain value
  | typed style, value =>
    let (type, rest) := Text.splitWord value
    let (name, description) := Text.splitWord rest
    style.showParameter type name ++ dash ++ description

/-- A value that has to say something to be shown as `showValue` does. -/
def unlessBlank (showValue : Text → Text) (value : Text) : Item :=
  .text (if Text.blank value then [] else showValue value)

/-- The item of a value, if the dialect shows it. -/
def item? (d : Dialect) (kind : ValueKind) (value : Text) : Option Item :=
  match kind, d with
  | .prose, _ => some (.text value)
  | .flag, _ => some .flag
  | .code, _ => some (unlessBlank inlineCode value)
  | .typed, d => some (unlessBlank d.showTyped value)
  | .parameter, d => some (unlessBlank d.showParameter value)
  | .result, plain => some (.text value)
  | .result, d => some (unlessBlank d.showTyped value)
  | .variableType, plain => none
  | .variableType, d => some (unlessBlank d.showTyped value)

/-- The group of a tag and its item there; `none` for a tag that is not recognised. Keys are
compared with their letter case. -/
def place? (d : Dialect) (tag : Tag) : Option (String × Item) := do
  let (group, kind) ← recognised.lookup tag.key
  let item ← d.item? kind tag.value
  some (group, item)

/-- The groups that a list of tags makes up. -/
def groups (d : Dialect) (tags : List Tag) : Groups := .ofList (tags.filterMap d.place?)

end Dialect

end DocMarkdown
