import DocMarkdown.Text.Blank

/-!
# The spacing of prose

Comment prose is laid out for the source file it stands in. Tidying removes that layout: a tidy
text has no blanks at its ends, no space next to a line break or after a tab, and no two spaces in
a row. Line breaks themselves stay, because a paragraph ends in one.

Only the space character U+0020 is ever removed inside a text; other blanks are kept as they are.

## Main definitions

* `Text.dropSpacesAfter` — no spaces after certain characters
* `Text.dropSpacesBefore` — no spaces before certain characters
* `Text.tidy` — a text with tidy spacing
* `Text.oneLine` — a tidy text on a single line
-/

namespace DocMarkdown.Text

/-- The characters that end a line: line feed and carriage return. -/
def isLineEnd (c : Char) : Bool := c == '\n' || c == '\r'

/-- The characters that a single line may not hold: line feed, carriage return and tab. -/
def isBreak (c : Char) : Bool := isLineEnd c || c == '\t'

/-- Drops every run of spaces that stands right after a character in `stop`; `skipping` says that
such a character has just been read. -/
def dropSpacesAfter (stop : Char → Bool) (skipping : Bool) : Text → Text
  | [] => []
  | c :: rest =>
    if skipping && c == ' ' then dropSpacesAfter stop true rest
    else c :: dropSpacesAfter stop (stop c) rest

/-- Drops every run of spaces that stands right before a character in `stop`. With the space
itself in `stop`, this shortens every run of spaces to its last. -/
def dropSpacesBefore (stop : Char → Bool) : Text → Text
  | [] => []
  | c :: rest =>
    let kept := dropSpacesBefore stop rest
    if c == ' ' && kept.head?.any stop then kept else c :: kept

/-- A text with tidy spacing: trimmed, without spaces next to line ends or after tabs, and with
single spaces elsewhere. -/
def tidy (t : Text) : Text :=
  dropSpacesBefore (· == ' ') (dropSpacesBefore isLineEnd (dropSpacesAfter isBreak false (trim t)))

/-- A tidy text on a single line: every break becomes a space first. -/
def oneLine (t : Text) : Text := tidy (t.map fun c => if isBreak c then ' ' else c)

-- Line breaks and tabs stay, without the spaces around them that they make superfluous.
example : tidy "  two   words \n  and\t more ".toList = "two words\nand\tmore".toList := by decide

-- A break becomes a space of its own, also right after an opening bracket.
example : oneLine "int f(\r\n\tint a)".toList = "int f( int a)".toList := by decide

@[simp] theorem tidy_nil : tidy [] = [] := rfl

@[simp] theorem oneLine_nil : oneLine [] = [] := rfl

end DocMarkdown.Text
