import DocMarkdown.Comment.Basic
import DocMarkdown.Proofs.Text.Joining
import DocMarkdown.Proofs.Text.Lines
import DocMarkdown.Text.Fields

/-!
# The values of tags

The value of a tag is written on one line, and every further line of the comment adds a paragraph to
it. So a value has line feeds in the breaks between its paragraphs and nowhere else. What is shown
of it, which may be a part of it behind other words, is of the same form: every line but the first
is empty or indented.

## Main definitions

* `IsParagraphed` — a text whose line feeds stand in breaks between paragraphs
* `IsNested` — a line that belongs to the item above it

## Main results

* `isParagraphed_of_mem_tags` — the values of a comment's tags are paragraphed
* `IsParagraphed.append`, `IsParagraphed.splitWord` — joined texts, and what follows a word
* `IsParagraphed.exists_lines` — the lines of a paragraphed text
-/

namespace DocMarkdown

variable {a b t : Text} {c : Char}

/-- A text in which line feeds stand only in breaks between paragraphs. -/
inductive IsParagraphed : Text → Prop
  | line {t : Text} (feedless : '\n' ∉ t) : IsParagraphed t
  | paragraph {a t : Text} (feedless : '\n' ∉ a) (others : IsParagraphed t) :
      IsParagraphed (a ++ Tag.paragraphBreak ++ t)

namespace IsParagraphed

theorem nil : IsParagraphed [] := .line List.not_mem_nil

/-- Joined texts are paragraphed: the last paragraph of one goes on with the first of the other. -/
theorem append (ha : IsParagraphed a) (hb : IsParagraphed b) : IsParagraphed (a ++ b) := by
  induction ha with
  | line feedless =>
    cases hb with
    | line feedless' => exact .line (mt List.mem_append.mp (not_or.mpr ⟨feedless, feedless'⟩))
    | paragraph feedless' others =>
      rw [← List.append_assoc, ← List.append_assoc]
      exact .paragraph (mt List.mem_append.mp (not_or.mpr ⟨feedless, feedless'⟩)) others
  | paragraph feedless _ ih =>
    rw [List.append_assoc]
    exact .paragraph feedless ih

theorem trimStart (h : IsParagraphed t) : IsParagraphed (Text.trimStart t) := by
  induction h with
  | line feedless => exact .line fun inside => feedless (List.dropWhile_subset _ inside)
  | @paragraph a t feedless others ih =>
    rcases Text.blank_or_eq_append a with blank | ⟨w, c, u, hw, ink, rfl⟩
    · -- A blank paragraph is trimmed away with the break after it.
      have gone : Text.blank (a ++ Tag.paragraphBreak) = true := by
        rw [Text.blank_append, blank]
        rfl
      rwa [Text.trimStart_append_of_blank gone]
    · rw [List.append_assoc, List.append_assoc, Text.trimStart_append_of_blank hw, List.cons_append,
        Text.trimStart_cons_of_not_blank ink, ← List.cons_append, ← List.append_assoc]
      exact .paragraph (fun inside => feedless (List.mem_append_right _ inside)) others

theorem dropWord (h : IsParagraphed t) : IsParagraphed (t.dropWhile (!Text.isBlank ·)) := by
  cases h with
  | line feedless => exact .line fun inside => feedless (List.dropWhile_subset _ inside)
  | @paragraph a t feedless others =>
    -- A word ends before the break, if not earlier.
    have stops : (Tag.paragraphBreak ++ t).dropWhile (!Text.isBlank ·) = Tag.paragraphBreak ++ t :=
      rfl
    rw [List.append_assoc, List.dropWhile_append, stops]
    split
    · exact .paragraph List.not_mem_nil others
    · rw [← List.append_assoc]
      exact .paragraph (fun inside => feedless (List.dropWhile_subset _ inside)) others

/-- What follows the first word of a paragraphed text is paragraphed. -/
theorem splitWord (h : IsParagraphed t) : IsParagraphed (Text.splitWord t).2 := h.dropWord.trimStart

end IsParagraphed

theorem feed_not_mem_splitWord (t : Text) : '\n' ∉ (Text.splitWord t).1 := by
  intro inside
  have visible := List.mem_takeWhile_imp inside
  exact absurd visible (by decide)

/-! ### The lines of a paragraphed text -/

/-- A line that belongs to the item above it: an empty one, or one that is indented by three
spaces. -/
def IsNested (l : Text) : Prop := l = [] ∨ "   ".toList <+: l

instance : DecidablePred IsNested := fun l => inferInstanceAs (Decidable (l = [] ∨ _))

/-- Every line of a paragraphed text but the first belongs to the item that the text stands in. -/
theorem IsParagraphed.exists_lines (h : IsParagraphed t) :
    ∃ first others, Text.lines t = first :: others ∧ ∀ l ∈ others, IsNested l := by
  induction h with
  | @line t feedless =>
    exact ⟨t, [], Text.lines_of_not_mem feedless, fun _ absent => nomatch absent⟩
  | @paragraph a t feedless _ ih =>
    obtain ⟨first, others, same, nested⟩ := ih
    have indented : Text.lines ("   ".toList ++ t) = ("   ".toList ++ first) :: others :=
      Text.lines_append_of_not_mem (by decide) same
    have split : a ++ Tag.paragraphBreak ++ t =
        a ++ '\n' :: ([] ++ '\n' :: ("   ".toList ++ t)) := by
      rw [List.append_assoc]
      rfl
    refine ⟨a, [] :: ("   ".toList ++ first) :: others, ?_, ?_⟩
    · rw [split, Text.lines_append_cons, Text.lines_append_cons, indented,
        Text.lines_of_not_mem feedless]
      rfl
    · intro l hl
      rcases List.mem_cons.mp hl with rfl | hl
      · exact Or.inl rfl
      · rcases List.mem_cons.mp hl with rfl | hl
        · exact Or.inr (List.prefix_append _ _)
        · exact nested l hl

/-! ### Values -/

theorem feed_not_mem_oneLine (t : Text) : '\n' ∉ Text.oneLine t := by
  intro inside
  exact absurd (Text.isBreak_of_mem_oneLine inside) (by decide)

theorem isParagraphed_opened (key value : Text) : IsParagraphed (Tag.opened key value).value :=
  .line (feed_not_mem_oneLine value)

/-- A value that is continued stays paragraphed. -/
theorem isParagraphed_extend {tag : Tag} (h : IsParagraphed tag.value) (prose : Text) :
    IsParagraphed (tag.extend prose).value := by
  have line : IsParagraphed (Text.oneLine prose) := .line (feed_not_mem_oneLine prose)
  rw [Tag.extend]
  split
  · exact h
  · split
    · exact line
    · rw [List.append_assoc]
      exact h.append (.paragraph List.not_mem_nil line)

theorem isParagraphed_of_mem_readTags {lines : List Line} {current : Option Tag}
    (h : ∀ tag ∈ current, IsParagraphed tag.value) {tag : Tag}
    (member : tag ∈ Comment.readTags current lines) : IsParagraphed tag.value := by
  induction lines generalizing current with
  | nil => exact h tag (Option.mem_toList.mp member)
  | cons line lines ih =>
    cases line with
    | tag key value =>
      rcases List.mem_append.mp member with member | member
      · exact h tag (Option.mem_toList.mp member)
      · refine ih ?_ member
        rintro _ ⟨⟩
        exact isParagraphed_opened key value
    | prose text =>
      refine ih ?_ member
      intro extended found
      obtain ⟨before, known, rfl⟩ := Option.map_eq_some_iff.mp found
      exact isParagraphed_extend (h before known) text
    | close =>
      rcases List.mem_append.mp member with member | member
      · exact h tag (Option.mem_toList.mp member)
      · exact ih (fun _ absent => absurd absent (Option.not_mem_none _)) member
    | void => exact ih h member

theorem isParagraphed_of_mem_readLines {lines : List Line} {tag : Tag}
    (member : tag ∈ (Comment.readLines lines).2) : IsParagraphed tag.value := by
  induction lines with
  | nil => nomatch member
  | cons line lines ih =>
    cases line with
    | tag key value =>
      refine isParagraphed_of_mem_readTags ?_ member
      rintro _ ⟨⟩
      exact isParagraphed_opened key value
    | prose text => exact ih member
    | close =>
      exact isParagraphed_of_mem_readTags (fun _ absent => absurd absent (Option.not_mem_none _))
        member
    | void => exact ih member

/-- The values of a comment's tags are paragraphed. -/
theorem isParagraphed_of_mem_tags {comment : Text} {tag : Tag}
    (member : tag ∈ (Comment.ofText comment).tags) : IsParagraphed tag.value :=
  isParagraphed_of_mem_readLines member

end DocMarkdown
