import DocMarkdown.Text.Blank

/-!
# Inline Markdown

The two pieces of Markdown that stand inside a line: code, and the dash between the parts of an
item.

## Main definitions

* `inlineCode` — a text as inline code
* `dash` — the dash between the parts of an item
-/

namespace DocMarkdown

/-- The delimiter of inline code. -/
def codeMark : Text := "`".toList

/-- A text as inline code. The text is taken as it stands, even if it holds the delimiter. -/
def inlineCode (t : Text) : Text := codeMark ++ t ++ codeMark

/-- What stands between the parts of an item. -/
def dash : Text := " — ".toList

end DocMarkdown
