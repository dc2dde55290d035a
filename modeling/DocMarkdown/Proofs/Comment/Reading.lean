import DocMarkdown.Comment.Basic
import DocMarkdown.Proofs.Text.Lines
import DocMarkdown.Proofs.Text.Spacing

/-!
# Reading a comment line by line

The uniform shape of a comment's body is made line by line, and so is its reading. Both together
give each line of the body a kind of its own, and the comment is what these kinds make up. What
stands at the end of a line's text does not matter, as the text is tidied before it is used.

## Main definitions

* `withMarker` — a body in which some line carries the marker
* `Line.ofBody` — the kind of a line of a body
* `Comment.ofLines` — what lines of known kinds make up
* `Line.trimEnd` — a line without the blanks at its end

## Main results

* `ofText_markParagraphs` — the comment that a body makes up, from the kinds of its lines
* `ofBody_of_marker`, `ofBody_of_no_marker` — the kind of a line, from what follows its marker
* `ofLines_map_trimEnd` — blanks at the ends of lines do not matter
-/

namespace DocMarkdown

/-- A body in which some line carries the marker. -/
def withMarker (body : Text) : Text := if body.contains marker then body else marker :: body

theorem withMarker_of_mem {body : Text} (h : marker ∈ body) : withMarker body = body :=
  if_pos (List.contains_iff_mem.mpr h)

theorem withMarker_of_not_mem {body : Text} (h : marker ∉ body) :
    withMarker body = marker :: body :=
  if_neg (mt List.contains_iff_mem.mp h)

theorem markParagraphs_eq (body : Text) :
    markParagraphs body = Text.unlines ((Text.lines (withMarker body)).map markParagraph) := rfl

/-- What a paragraph mark reads. -/
def paragraphMark : Text := ['<', 'p', '>']

namespace Line

variable {line rest : Text}

/-- The kind of a line of a comment's body. -/
def ofBody (line : Text) : Line := ofText (markParagraph line)

theorem ofText_of_marker (h : line.dropWhile Text.isIndent = marker :: rest) :
    ofText line = ofMarked rest := by
  rw [ofText, h]
  rfl

/-- Without the marker a line is void. -/
theorem ofText_of_no_marker (h : (line.dropWhile Text.isIndent).head? ≠ some marker) :
    ofText line = void := by
  rw [ofText]
  split
  · next c marked found =>
    have other : (c == marker) = false := by simpa [found] using h
    rw [other]
    rfl
  · rfl

theorem markParagraph_of_marker (h : line.dropWhile Text.isIndent = marker :: rest) :
    markParagraph line =
      if Text.blank rest then line.takeWhile Text.isIndent ++ marker :: ' ' :: paragraphMark
      else line := by
  rw [markParagraph, h]
  rfl

theorem markParagraph_of_no_marker (h : (line.dropWhile Text.isIndent).head? ≠ some marker) :
    markParagraph line = line := by
  rw [markParagraph]
  split
  · next c rest found =>
    have other : (c == marker) = false := by simpa [found] using h
    rw [other]
    rfl
  · rfl

theorem ofBody_of_no_marker (h : (line.dropWhile Text.isIndent).head? ≠ some marker) :
    ofBody line = void := by
  rw [ofBody, markParagraph_of_no_marker h, ofText_of_no_marker h]

/-- The marker by itself is a paragraph mark, and any other text after it says what the line is. -/
theorem ofBody_of_marker (h : line.dropWhile Text.isIndent = marker :: rest) :
    ofBody line = if Text.blank rest then prose paragraphMark else ofMarked rest := by
  rw [ofBody, markParagraph_of_marker h]
  split
  · -- The paragraph mark has the indentation of the line, and is read behind it.
    have indent : ∀ c ∈ line.takeWhile Text.isIndent, Text.isIndent c = true := by
      intro c hc
      exact List.mem_takeWhile_imp hc
    have dropped : (line.takeWhile Text.isIndent ++ marker :: ' ' :: paragraphMark).dropWhile
        Text.isIndent = marker :: ' ' :: paragraphMark := by
      rw [List.dropWhile_append_of_pos indent]
      rfl
    rw [ofText_of_marker dropped]
    decide
  · exact ofText_of_marker h

/-- After a marker, a text that starts with `@` is a tag if a letter follows. -/
theorem ofMarked_of_at (h : line.dropWhile Text.isIndent = '@' :: rest) :
    ofMarked line =
      if (rest.takeWhile Char.isAlpha).isEmpty then close
      else tag (rest.takeWhile Char.isAlpha) (rest.dropWhile Char.isAlpha) := by
  rw [ofMarked, h]
  cases key : rest.takeWhile Char.isAlpha <;> simp [key]

/-- After a marker, any other text is prose, unless it is glued to the marker or blank. -/
theorem ofMarked_of_no_at (h : (line.dropWhile Text.isIndent).head? ≠ some '@') :
    ofMarked line =
      if (line.takeWhile Text.isIndent).isEmpty || Text.blank (line.dropWhile Text.isIndent) then
        void
      else prose (line.dropWhile Text.isIndent) := by
  rw [ofMarked]
  split
  · next found => simp [found] at h
  · rfl

theorem feed_not_mem_markParagraph (h : '\n' ∉ line) : '\n' ∉ markParagraph line := by
  rw [markParagraph]
  split
  · split
    · intro inside
      rcases List.mem_append.mp inside with inside | inside
      · exact h ((List.takeWhile_subset _) inside)
      · exact absurd inside (by decide)
    · exact h
  · exact h

/-- A line without the blanks at its end. -/
def trimEnd : Line → Line
  | tag key value => tag key (Text.trimEnd value)
  | prose text => prose (Text.trimEnd text)
  | close => close
  | void => void

end Line

namespace Comment

/-- What lines of known kinds make up. -/
def ofLines (lines : List Line) : Comment :=
  ⟨DocMarkdown.description (readLines lines).1, (readLines lines).2⟩

theorem ofText_eq (comment : Text) :
    ofText comment = ofLines ((Text.lines comment).map Line.ofText) := rfl

/-- The comment that a body makes up, from the kinds of its lines. -/
theorem ofText_markParagraphs (body : Text) :
    ofText (markParagraphs body) = ofLines ((Text.lines (withMarker body)).map Line.ofBody) := by
  have free : ∀ l ∈ (Text.lines (withMarker body)).map markParagraph, '\n' ∉ l := by
    intro l hl
    obtain ⟨line, hline, rfl⟩ := List.mem_map.mp hl
    exact Line.feed_not_mem_markParagraph (Text.not_mem_of_mem_lines hline)
  have nonempty : (Text.lines (withMarker body)).map markParagraph ≠ [] :=
    mt List.map_eq_nil_iff.mp (Text.lines_ne_nil _)
  rw [ofText_eq, markParagraphs_eq, Text.lines_unlines nonempty free, List.map_map]
  rfl

theorem opened_trimEnd (key value : Text) :
    Tag.opened key (Text.trimEnd value) = .opened key value := by
  rw [Tag.opened, Tag.opened, Text.oneLine_trimEnd]

theorem extend_trimEnd (tag : Tag) (prose : Text) :
    tag.extend (Text.trimEnd prose) = tag.extend prose := by
  rw [Tag.extend, Tag.extend, Text.oneLine_trimEnd]

theorem readTags_map_trimEnd (current : Option Tag) (lines : List Line) :
    readTags current (lines.map Line.trimEnd) = readTags current lines := by
  induction lines generalizing current with
  | nil => rfl
  | cons line lines ih =>
    cases line with
    | tag key value => simp only [List.map_cons, Line.trimEnd, readTags, opened_trimEnd, ih]
    | prose text => simp only [List.map_cons, Line.trimEnd, readTags, extend_trimEnd, ih]
    | close => simp only [List.map_cons, Line.trimEnd, readTags, ih]
    | void => simp only [List.map_cons, Line.trimEnd, readTags, ih]

theorem readLines_map_trimEnd (lines : List Line) :
    readLines (lines.map Line.trimEnd) =
      ((readLines lines).1.map Text.trimEnd, (readLines lines).2) := by
  induction lines with
  | nil => rfl
  | cons line lines ih =>
    cases line with
    | tag key value =>
      simp only [List.map_cons, Line.trimEnd, readLines, opened_trimEnd, readTags_map_trimEnd,
        List.map_nil]
    | prose text => simp only [List.map_cons, Line.trimEnd, readLines, ih]
    | close =>
      simp only [List.map_cons, Line.trimEnd, readLines, readTags_map_trimEnd, List.map_nil]
    | void => simp only [List.map_cons, Line.trimEnd, readLines, ih]

/-- Blanks at the ends of lines do not matter. -/
theorem ofLines_map_trimEnd (lines : List Line) :
    ofLines (lines.map Line.trimEnd) = ofLines lines := by
  have tidied : ∀ prose : List Text,
      DocMarkdown.description (prose.map Text.trimEnd) = DocMarkdown.description prose := by
    intro prose
    simp only [DocMarkdown.description, List.map_map, Function.comp_def, Text.tidy_trimEnd]
  rw [ofLines, readLines_map_trimEnd, tidied]
  rfl

end Comment

end DocMarkdown
