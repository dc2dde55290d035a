import DocMarkdown.Comment.Body

/-!
# The lines of a comment

Every line of a comment that says something starts, after its indentation, with the marker. What
follows the marker decides what the line is.

## Main definitions

* `Line` — what one line of a comment is
* `Line.ofText` — the kind of a line
-/

namespace DocMarkdown

/-- What one line of a comment is. -/
inductive Line where
  /-- `* @key value`: a tag opens. The key is made of ASCII letters, the value is what follows. -/
  | tag (key value : Text)
  /-- `* text`: prose, indentation dropped. -/
  | prose (text : Text)
  /-- `* @` before anything but a letter: no tag opens, and the open one is closed. -/
  | close
  /-- A line without the marker, with nothing after it, or with text glued to it. -/
  | void
deriving DecidableEq, Repr

namespace Line

/-- The kind of the text after a marker. Prose needs at least one indenting character between the
marker and itself, so a ruler of markers is none; a tag needs none. -/
def ofMarked (marked : Text) : Line :=
  match marked.dropWhile Text.isIndent with
  | '@' :: rest =>
    match rest.takeWhile Char.isAlpha with
    | [] => close
    | key => tag key (rest.dropWhile Char.isAlpha)
  | text =>
    if (marked.takeWhile Text.isIndent).isEmpty || Text.blank text then void else prose text

/-- The kind of a line. -/
def ofText (line : Text) : Line :=
  match line.dropWhile Text.isIndent with
  | c :: marked => if c == marker then ofMarked marked else void
  | [] => void

end Line

end DocMarkdown
