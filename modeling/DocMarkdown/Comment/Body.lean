import DocMarkdown.Text.Cut

/-!
# Comment bodies

The body of a comment is what stands between its two marks. Before it is read it gets a uniform
shape, in which some line carries the marker `*` and a line that holds nothing but the marker is
spelt as a paragraph mark.

## Main definitions

* `marker` — what starts the lines of a comment
* `markParagraph` — a line in its uniform shape
* `markParagraphs` — a body in its uniform shape
-/

namespace DocMarkdown

/-- The marker that starts every line of a comment. -/
def marker : Char := '*'

/-- A line that holds the marker and nothing more becomes a paragraph mark at the same
indentation; any other line stays. -/
def markParagraph (line : Text) : Text :=
  match line.dropWhile Text.isIndent with
  | c :: rest =>
    if c == marker && Text.blank rest then
      line.takeWhile Text.isIndent ++ [marker, ' ', '<', 'p', '>']
    else line
  | [] => line

/-- A body in its uniform shape: one without any marker gets one in front, and lines that hold only
the marker become paragraph marks. -/
def markParagraphs (body : Text) : Text :=
  let marked := if body.contains marker then body else marker :: body
  Text.unlines ((Text.lines marked).map markParagraph)

-- A comment on one line gets its marker.
example : markParagraphs " One. ".toList = "* One. ".toList := by decide

-- A line of the marker alone separates paragraphs.
example : markParagraphs "\n * One.\n *\n * Two.".toList = "\n * One.\n * <p>\n * Two.".toList := by
  decide

end DocMarkdown
