import DocMarkdown.Proofs.Comment.Kinds
import DocMarkdown.Proofs.Comment.Paragraphs
import DocMarkdown.Proofs.Comment.Prose
import DocMarkdown.Source.Block

/-!
# Writing tags

A tag may be written line by line: its key with the first line of its value, and the further lines
below, indented. Each of these lines is read as what it was written for, and reading them one after
the other collects the lines of the value.

## Main definitions

* `IsCommentLine`, `IsValueLine` — lines that may be written anywhere, and below a tag
* `TagLines` — a tag with its value in lines
* `TagLines.lines` — the lines of a comment that a tag is written in
* `TagLines.tag` — the tag itself

## Main results

* `ofBody_margin_append`, `ofBody_key_append` — what a written line is read as
* `TagLines.foldl_extend_opened` — the lines of a tag make up the tag
* `readTags_flatMap_kinds` — written tags are read back
-/

namespace DocMarkdown

variable {key l margin mark t value : Text} {c : Char}

/-- A tidy line that does not close the comment it stands in. -/
@[mk_iff]
structure IsCommentLine (l : Text) : Prop extends Text.IsTidyLine l where
  unclosed : ¬ Block.closing <:+: l

instance : DecidablePred IsCommentLine := fun l => decidable_of_iff _ (isCommentLine_iff l).symm

/-- A line that continues the value of a tag: it opens no tag, and is no paragraph mark. -/
@[mk_iff]
structure IsValueLine (l : Text) : Prop extends IsCommentLine l where
  head?_ne_at : l.head? ≠ some '@'
  toLower_ne_mark : l.map Char.toLower ≠ paragraphMark

instance : DecidablePred IsValueLine := fun l => decidable_of_iff _ (isValueLine_iff l).symm

/-- A tag with its value in lines, the first of which may be missing. -/
structure TagLines where
  key : Text
  first : Option Text
  others : List Text
  key_ne_nil : key ≠ [] := by decide
  all_isAlpha : key.all Char.isAlpha = true := by decide
  isCommentLine_first : ∀ l ∈ first, IsCommentLine l := by decide
  isValueLine_others : ∀ l ∈ others, IsValueLine l := by decide

namespace TagLines

/-- The lines of a comment that a tag is written in. -/
def lines (t : TagLines) : List Text :=
  (" * @".toList ++ t.key ++ ' ' :: t.first.getD []) :: t.others.map (" *     ".toList ++ ·)

/-- The tag that is written: the lines of its value are paragraphs. -/
def tag (t : TagLines) : Tag :=
  ⟨String.ofList t.key, Tag.paragraphBreak.intercalate (t.first.toList ++ t.others)⟩

/-- The kinds of the lines that a tag is written in. -/
def kinds (t : TagLines) : List Line :=
  .tag t.key (' ' :: t.first.getD []) :: t.others.map .prose

theorem isAlpha_of_mem_key (t : TagLines) : ∀ c ∈ t.key, c.isAlpha = true :=
  List.all_eq_true.mp t.all_isAlpha

end TagLines

/-! ### What written lines are read as -/

namespace Line

/-- A text after a margin is prose, unless it opens a tag. -/
theorem ofBody_margin_append (nonempty : margin ≠ [])
    (indent : ∀ c ∈ margin, Text.isIndent c = true) (solid : Text.IsSolid l)
    (noTag : l.head? ≠ some '@') :
    ofBody (" *".toList ++ margin ++ l) = prose l := by
  obtain ⟨c, u, ink, rfl⟩ := solid.begins
  have outer : IsMargin [' '] := List.forall_mem_singleton.mpr rfl
  have begins : ∀ first ∈ (c :: u).head?, Text.isIndent first = false ∧ first ≠ '@' := by
    rintro _ ⟨⟩
    refine ⟨Bool.eq_false_iff.mpr fun h => ?_, fun same => noTag (congrArg some same)⟩
    simp [Text.isBlank_of_isIndent h] at ink
  have visible : Text.blank (c :: u) = false := by simp [ink]
  have inked : Text.blank (margin ++ c :: u) = false := by simp [ink]
  exact (ofBody_append_marker outer inked).trans
    (Spells.prose outer indent nonempty begins visible).ofText_eq

/-- A key and what follows it are a tag. -/
theorem ofBody_key_append (nonempty : key ≠ []) (letters : ∀ c ∈ key, c.isAlpha = true)
    (value : Text) :
    ofBody (" * @".toList ++ key ++ ' ' :: value) = tag key (' ' :: value) := by
  have margin : IsMargin [' '] := List.forall_mem_singleton.mpr rfl
  have ends : ∀ c ∈ (' ' :: value).head?, c.isAlpha = false := by simp
  have inked : Text.blank (' ' :: '@' :: (key ++ ' ' :: value)) = false := rfl
  exact (ofBody_append_marker margin inked).trans
    (Spells.tag margin margin nonempty letters ends).ofText_eq

end Line

/-- The lines of a written tag are of the kinds they were written for. -/
theorem TagLines.map_ofBody_lines (t : TagLines) : t.lines.map Line.ofBody = t.kinds := by
  have others : ∀ l ∈ t.others, Line.ofBody (" *     ".toList ++ l) = .prose l := by
    intro l hl
    have line := t.isValueLine_others l hl
    have indent : ∀ c ∈ "     ".toList, Text.isIndent c = true := List.all_eq_true.mp rfl
    exact Line.ofBody_margin_append (List.cons_ne_nil _ _) indent line.isSolid line.head?_ne_at
  rw [lines, kinds, List.map_cons, List.map_map,
    Line.ofBody_key_append t.key_ne_nil t.isAlpha_of_mem_key]
  exact congrArg _ (List.map_congr_left others)

/-! ### Reading tags back -/

/-- The lines of a value are its paragraphs. -/
theorem Tag.paragraphs_eq_self {others : List Text} (lines : ∀ l ∈ others, IsValueLine l) :
    paragraphs others = others := by
  have same : others.map Text.oneLine = others :=
    (List.map_congr_left fun l hl => (lines l hl).oneLine_eq_self).trans (List.map_id' others)
  rw [paragraphs, same, List.filter_eq_self]
  intro l hl
  exact decide_eq_true ⟨(lines l hl).ne_nil, (lines l hl).toLower_ne_mark⟩

namespace TagLines

/-- The line with the key has the first line of the value, if there is one. -/
theorem filter_oneLine (t : TagLines) :
    [Text.oneLine (' ' :: t.first.getD [])].filter (· ≠ []) = t.first.toList := by
  cases first : t.first with
  | none => rfl
  | some l =>
    have line := t.isCommentLine_first l first
    have trimmed : Text.oneLine (' ' :: l) = l := by
      rw [← Text.oneLine_trim, ← List.singleton_append, Text.trim_blank_append (by decide),
        line.isSolid.trim_eq_self, line.oneLine_eq_self]
    simp [trimmed, line.ne_nil]

/-- Reading the lines of a tag makes up the tag. -/
theorem foldl_extend_opened (t : TagLines) :
    t.others.foldl Tag.extend (.opened t.key (' ' :: t.first.getD [])) = t.tag := by
  rw [Tag.foldl_extend_opened, Tag.continued, filter_oneLine,
    Tag.paragraphs_eq_self t.isValueLine_others, tag]

end TagLines

namespace Comment

theorem readTags_map_prose_append (tag : Tag) (texts : List Text) (lines : List Line) :
    readTags (some tag) (texts.map .prose ++ lines) =
      readTags (some (texts.foldl Tag.extend tag)) lines := by
  induction texts generalizing tag with
  | nil => rfl
  | cons text texts ih => exact ih (tag.extend text)

theorem readTags_kinds_append (current : Option Tag) (t : TagLines) (lines : List Line) :
    readTags current (t.kinds ++ lines) = current.toList ++ readTags (some t.tag) lines := by
  rw [TagLines.kinds, List.cons_append, readTags, readTags_map_prose_append, t.foldl_extend_opened]

/-- Written tags are read back, after the one that is still open. -/
theorem readTags_flatMap_kinds (current : Option Tag) (tags : List TagLines) :
    readTags current (tags.flatMap TagLines.kinds ++ [.void]) =
      current.toList ++ tags.map TagLines.tag := by
  induction tags generalizing current with
  | nil => simp [readTags]
  | cons t tags ih =>
    rw [List.flatMap_cons, List.append_assoc, readTags_kinds_append, ih, List.map_cons]
    rfl

theorem readLines_map_prose_append (texts : List Text) (lines : List Line) :
    readLines (texts.map .prose ++ lines) =
      (texts ++ (readLines lines).1, (readLines lines).2) := by
  induction texts with
  | nil => rfl
  | cons text texts ih =>
    rw [List.map_cons, List.cons_append, readLines, ih]
    rfl

/-- Without prose before them, written tags are all that is read. -/
theorem readLines_flatMap_kinds (tags : List TagLines) :
    readLines (tags.flatMap TagLines.kinds ++ [.void]) = ([], tags.map TagLines.tag) := by
  cases tags with
  | nil => rfl
  | cons t tags =>
    rw [List.flatMap_cons, List.append_assoc, TagLines.kinds, List.cons_append, readLines,
      readTags_map_prose_append, t.foldl_extend_opened, readTags_flatMap_kinds]
    rfl

end Comment

end DocMarkdown
