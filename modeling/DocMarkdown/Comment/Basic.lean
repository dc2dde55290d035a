import DocMarkdown.Comment.Line
import DocMarkdown.Comment.Description

/-!
# Reading a comment

A comment is a description followed by tags. The description takes the prose before the first line
that starts with `@`; from there on prose continues the tag above it, as a paragraph of its own.

## Main definitions

* `Tag`, `Comment` — a tag, and a comment's description and tags
* `Tag.extend` — a tag continued by one more line of prose
* `Comment.readTags` — the tags that lines hold, one of them open
* `Comment.ofText` — the description and the tags of a comment
-/

namespace DocMarkdown

/-- A tag: its key as written, and its value, the paragraphs of which are already indented. -/
structure Tag where
  key : String
  value : Text
deriving DecidableEq, Repr

/-- What a comment says. -/
structure Comment where
  description : Text
  tags : List Tag
deriving DecidableEq, Repr

namespace Tag

/-- What stands between the paragraphs of a value: an empty line, and the indentation of a list
item's text. -/
def paragraphBreak : Text := "\n\n   ".toList

/-- A paragraph mark by itself, in either letter case. -/
def isParagraphMark (t : Text) : Bool := Text.dropFolded? ['<', 'p', '>'] t == some []

/-- The tag that a tag line opens. -/
def opened (key value : Text) : Tag := ⟨String.ofList key, Text.oneLine value⟩

/-- A tag continued by one more line of prose. An empty line or a paragraph mark adds nothing; the
first words of a value start no new paragraph. -/
def extend (tag : Tag) (prose : Text) : Tag :=
  let line := Text.oneLine prose
  if line.isEmpty || isParagraphMark line then tag
  else if tag.value.isEmpty then { tag with value := line }
  else { tag with value := tag.value ++ paragraphBreak ++ line }

end Tag

namespace Comment

/-- The tags that lines hold, after `current`, the tag that is still open. A tag ends at the next
line that starts with `@`; prose where no tag is open is dropped. -/
def readTags : (current : Option Tag) → List Line → List Tag
  | current, [] => current.toList
  | current, .tag key value :: lines => current.toList ++ readTags (some (.opened key value)) lines
  | current, .prose text :: lines => readTags (current.map (·.extend text)) lines
  | current, .close :: lines => current.toList ++ readTags none lines
  | current, .void :: lines => readTags current lines

/-- The prose before the first line that starts with `@`, and the tags from that line on. -/
def readLines : List Line → List Text × List Tag
  | [] => ([], [])
  | .prose text :: lines => ((text :: (readLines lines).1), (readLines lines).2)
  | .void :: lines => readLines lines
  | .close :: lines => ([], readTags none lines)
  | .tag key value :: lines => ([], readTags (some (.opened key value)) lines)

/-- The description and the tags of a comment. -/
def ofText (comment : Text) : Comment :=
  let (prose, tags) := readLines ((Text.lines comment).map Line.ofText)
  ⟨DocMarkdown.description prose, tags⟩

end Comment

end DocMarkdown
