import DocMarkdown.Markdown.Inline
import DocMarkdown.Text.Cut
import DocMarkdown.Text.Spacing

/-!
# Descriptions

The prose of a comment before its first tag is its description. Paragraph marks and code marks,
in either letter case, become what Markdown has for them: an empty line, and inline code.

## Main definitions

* `Description.breakParagraphs` — paragraph marks become empty lines
* `Description.joinBreaks` — never more than one empty line in a row
* `Description.spanCode` — code marks become inline code
* `description` — the description that lines of prose make up
-/

namespace DocMarkdown

namespace Description

/-- Drops a paragraph mark, opening or closing. -/
def dropParagraph? (t : Text) : Option Text :=
  (Text.dropFolded? ['<', 'p', '>'] t).or (Text.dropFolded? ['<', '/', 'p', '>'] t)

theorem shortens_dropParagraph? : Text.Shortens dropParagraph? := by
  intro t rest h
  rw [dropParagraph?, Option.or_eq_some_iff] at h
  rcases h with h | ⟨-, h⟩
  · exact Text.shortens_dropFolded? (by simp) _ _ h
  · exact Text.shortens_dropFolded? (by simp) _ _ h

/-- Every paragraph mark becomes an empty line. -/
def breakParagraphs (t : Text) : Text :=
  Text.replaceWith dropParagraph? shortens_dropParagraph? ['\n', '\n'] t

/-- Three or more line feeds in a row become two. -/
def joinBreaks : Text → Text
  | [] => []
  | c :: rest =>
    let kept := joinBreaks rest
    if c == '\n' && ['\n', '\n'].isPrefixOf kept then kept else c :: kept

/-- The mark that opens code. -/
def codeOpening : Text := ['<', 'c', 'o', 'd', 'e', '>']

/-- The mark that closes code. -/
def codeClosing : Text := ['<', '/', 'c', 'o', 'd', 'e', '>']

/-- The text before the first piece of marked code, the code, and the text after it. -/
def cutCode (t : Text) : Option (Text × Text × Text) := do
  let (before, opened) ← Text.cutWith (Text.dropFolded? codeOpening) t
  let (code, after) ← Text.cutWith (Text.dropFolded? codeClosing) opened
  some (before, code, after)

theorem length_lt_of_cutCode {t before code after : Text}
    (h : cutCode t = some (before, code, after)) : after.length < t.length := by
  simp only [cutCode, Option.bind_eq_bind, Option.bind_eq_some_iff, Option.some.injEq,
    Prod.mk.injEq] at h
  obtain ⟨⟨_, opened⟩, cutOpening, ⟨_, closed⟩, cutClosing, -, -, rfl⟩ := h
  have opening : Text.Shortens (Text.dropFolded? codeOpening) :=
    Text.shortens_dropFolded? (by simp [codeOpening])
  have closing : Text.Shortens (Text.dropFolded? codeClosing) :=
    Text.shortens_dropFolded? (by simp [codeClosing])
  exact Nat.lt_trans (Text.length_lt_of_cutWith closing cutClosing)
    (Text.length_lt_of_cutWith opening cutOpening)

/-- Marked code becomes inline code. It runs to the nearest closing mark, across line breaks; an
opening mark that is never closed stays as it stands. -/
def spanCode (t : Text) : Text :=
  match _cut : cutCode t with
  | none => t
  | some (before, code, after) => before ++ inlineCode code ++ spanCode after
termination_by t.length
decreasing_by exact length_lt_of_cutCode _cut

/-- The description that a running text makes up. -/
def ofProse (t : Text) : Text := spanCode (joinBreaks (Text.tidy (breakParagraphs t)))

end Description

/-- The description that lines of prose make up: the tidy lines, run together. -/
def description (lines : List Text) : Text :=
  Description.ofProse ([' '].intercalate (lines.map Text.tidy))

end DocMarkdown
