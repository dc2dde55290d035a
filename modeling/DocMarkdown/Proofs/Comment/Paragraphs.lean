import DocMarkdown.Proofs.Comment.Reading
import DocMarkdown.Proofs.Text.Joining
import DocMarkdown.Proofs.Text.Marks

/-!
# The paragraphs of a value

The value of a tag has one paragraph for the rest of the tag's own line, and one for each line of
prose below it. What is empty is no paragraph, and neither is a line of prose that only marks one.

## Main definitions

* `Tag.paragraphs` — the paragraphs that lines of prose make up
* `Tag.continued` — the tag that its own line and lines of prose make up

## Main results

* `Tag.isParagraphMark_iff` — what a paragraph mark is
* `Tag.foldl_extend` — lines of prose add their paragraphs
* `Tag.foldl_extend_opened` — a tag that is opened and continued
-/

namespace DocMarkdown

variable {t : Text}

namespace Tag

/-- A paragraph mark by itself, whatever the case of its letter. -/
theorem isParagraphMark_iff : isParagraphMark t = true ↔ t.map Char.toLower = paragraphMark := by
  rw [isParagraphMark, beq_iff_eq, Text.dropFolded?_eq_some_iff]
  simp [paragraphMark]

/-- A line that makes up a paragraph: it is not empty, and does more than mark one. -/
def IsParagraph (l : Text) : Prop := l ≠ [] ∧ l.map Char.toLower ≠ paragraphMark

instance : DecidablePred IsParagraph := fun _ => inferInstanceAs (Decidable (_ ∧ _))

/-- The paragraphs that lines of prose make up, each on one line. -/
def paragraphs (prose : List Text) : List Text := (prose.map Text.oneLine).filter IsParagraph

/-- The tag that the key and the value on its own line make up, with the prose below it. -/
def continued (key value : Text) (prose : List Text) : Tag :=
  ⟨String.ofList key, paragraphBreak.intercalate
    ([Text.oneLine value].filter (· ≠ []) ++ paragraphs prose)⟩

variable {name : String} {done : List Text} {text : Text} {tag : Tag}

/-- Prose that makes up no paragraph adds nothing. -/
theorem extend_of_not_isParagraph (silent : ¬ IsParagraph (Text.oneLine text)) :
    tag.extend text = tag := by
  have nothing : ((Text.oneLine text).isEmpty || isParagraphMark (Text.oneLine text)) = true := by
    rw [Bool.or_eq_true, List.isEmpty_iff, isParagraphMark_iff]
    exact Decidable.or_iff_not_not_and_not.mpr silent
  rw [extend]
  exact if_pos nothing

/-- Any other prose is a further paragraph, or the first one. -/
theorem extend_of_isParagraph (line : IsParagraph (Text.oneLine text)) :
    tag.extend text =
      if tag.value.isEmpty then { tag with value := Text.oneLine text }
      else { tag with value := tag.value ++ paragraphBreak ++ Text.oneLine text } := by
  have something :
      ¬ ((Text.oneLine text).isEmpty || isParagraphMark (Text.oneLine text)) = true := by
    rw [Bool.or_eq_true, List.isEmpty_iff, isParagraphMark_iff]
    exact not_or.mpr line
  rw [extend]
  exact if_neg something

theorem paragraphs_cons (text : Text) (prose : List Text) :
    paragraphs (text :: prose) = paragraphs [text] ++ paragraphs prose := by
  rw [← List.singleton_append, paragraphs, List.map_append, List.filter_append]
  rfl

theorem paragraphs_singleton_of_not (silent : ¬ IsParagraph (Text.oneLine text)) :
    paragraphs [text] = [] := by
  simp [paragraphs, silent]

/-- A line of prose adds its paragraph, if it makes one up. -/
theorem extend_intercalate (inhabited : [] ∉ done) (text : Text) :
    (⟨name, paragraphBreak.intercalate done⟩ : Tag).extend text =
      ⟨name, paragraphBreak.intercalate (done ++ paragraphs [text])⟩ := by
  by_cases line : IsParagraph (Text.oneLine text)
  · have own : paragraphs [text] = [Text.oneLine text] := by simp [paragraphs, line]
    rw [extend_of_isParagraph line, own]
    by_cases first : done = []
    · simp [first]
    · have some : paragraphBreak.intercalate done ≠ [] := Text.intercalate_ne_nil first inhabited
      rw [List.isEmpty_eq_false_iff.mpr some, Text.intercalate_append first (List.cons_ne_nil _ []),
        List.intercalate_singleton]
      rfl
  · rw [extend_of_not_isParagraph line, paragraphs_singleton_of_not line, List.append_nil]

theorem nil_not_mem_paragraphs (prose : List Text) : [] ∉ paragraphs prose := by
  simp [paragraphs, IsParagraph]

/-- Lines of prose add their paragraphs. -/
theorem foldl_extend (inhabited : [] ∉ done) (prose : List Text) :
    prose.foldl extend ⟨name, paragraphBreak.intercalate done⟩ =
      ⟨name, paragraphBreak.intercalate (done ++ paragraphs prose)⟩ := by
  -- By induction on the lines to come, for all paragraphs that are already in the value.
  induction prose generalizing done with
  | nil => simp [paragraphs]
  | cons text prose ih =>
    have more : [] ∉ done ++ paragraphs [text] := by
      simp [inhabited, nil_not_mem_paragraphs]
    rw [List.foldl_cons, extend_intercalate inhabited, ih more, paragraphs_cons text prose,
      List.append_assoc]

/-- A tag that is opened and continued has the paragraphs of its own line and of the lines below. -/
theorem foldl_extend_opened (key value : Text) (prose : List Text) :
    prose.foldl extend (opened key value) = continued key value prose := by
  have own : opened key value =
      ⟨String.ofList key, paragraphBreak.intercalate ([Text.oneLine value].filter (· ≠ []))⟩ := by
    by_cases empty : Text.oneLine value = []
    · simp [opened, empty]
    · simp [opened, empty]
  have inhabited : [] ∉ [Text.oneLine value].filter (· ≠ []) := by simp
  rw [own, foldl_extend inhabited, continued]

end Tag

end DocMarkdown
