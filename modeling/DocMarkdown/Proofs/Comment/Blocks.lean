import DocMarkdown.Proofs.Comment.Kinds
import DocMarkdown.Proofs.Comment.Paragraphs
import DocMarkdown.Proofs.Comment.Prose
import Mathlib.Data.List.Forall2
import Mathlib.Data.List.Infix

/-!
# The blocks of a comment

A line that starts with `@` begins a block, which runs to the next such line. A block that begins
with a tag line is a tag: its paragraphs are the value on that line and the prose below it. A block
that begins with any other line is nobody's, and its prose is lost.

## Main definitions

* `Comment.leadingProse` — the prose before the first block
* `Comment.tagsIn` — the tags of lines, one for each tag line
* `Line.silence` — a line of prose that makes up no paragraph says nothing

## Main results

* `Comment.readTags_eq`, `Comment.readLines_eq` — what is read are the blocks
* `Comment.tagsIn_map_silence` — prose that makes up no paragraph belongs to no tag
* `Comment.tags_ofText_markParagraphs` — the tags of a comment's body
* `Comment.ofText_stray` — a stray `@` ends the description
-/

namespace DocMarkdown

variable {a b : List Line} {before after : List Text} {s : Text}

namespace Line

/-- The line starts with `@`, whether or not it opens a tag. -/
def beginsBlock : Line → Bool
  | tag _ _ => true
  | close => true
  | prose _ => false
  | void => false

/-- The key of the tag that the line opens. -/
def key? : Line → Option String
  | tag key _ => some (String.ofList key)
  | _ => none

/-- The prose of the line. -/
def prose? : Line → Option Text
  | prose text => some text
  | _ => none

theorem mem_prose?_ofText {line text : Text} :
    text ∈ (ofText line).prose? ↔ Spells (.prose text) line := by
  rw [spells_iff]
  cases ofText line with
  | prose t => simp [prose?]
  | tag | close | void => exact iff_of_false nofun nofun

end Line

namespace Comment

/-- The prose before the first line that begins a block. -/
def leadingProse (lines : List Line) : List Text :=
  (lines.takeWhile (!·.beginsBlock)).filterMap Line.prose?

/-- The tag that the first line opens, with the prose up to the next block. -/
def tagAt? : List Line → Option Tag
  | .tag key value :: below => some (.continued key value (leadingProse below))
  | _ => none

/-- The tags of lines, one for each tag line. -/
def tagsIn (lines : List Line) : List Tag := lines.tails.filterMap tagAt?

theorem leadingProse_cons (line : Line) (lines : List Line) :
    leadingProse (line :: lines) =
      if line.beginsBlock then [] else line.prose?.toList ++ leadingProse lines := by
  cases line <;> rfl

theorem leadingProse_prose (text : Text) (lines : List Line) :
    leadingProse (.prose text :: lines) = text :: leadingProse lines := rfl

theorem tagsIn_cons (line : Line) (lines : List Line) :
    tagsIn (line :: lines) = (tagAt? (line :: lines)).toList ++ tagsIn lines := by
  rw [tagsIn, List.tails_cons, List.filterMap_cons]
  cases tagAt? (line :: lines) <;> rfl

/-! ### Reading blocks -/

/-- The prose before the first block goes to the tag that is still open. -/
theorem readTags_eq (current : Option Tag) (lines : List Line) :
    readTags current lines =
      (current.map ((leadingProse lines).foldl Tag.extend)).toList ++ tagsIn lines := by
  -- By induction on the lines, for any open tag: a tag line leaves its own tag open for those below.
  induction lines generalizing current with
  | nil => cases current <;> rfl
  | cons line lines ih =>
    rw [leadingProse_cons, tagsIn_cons]
    cases line with
    | tag key value =>
      rw [readTags, ih, Option.map_some, Tag.foldl_extend_opened]
      cases current <;> rfl
    | prose text =>
      rw [readTags, ih, Option.map_map]
      rfl
    | close =>
      rw [readTags, ih]
      cases current <;> rfl
    | void =>
      rw [readTags, ih]
      rfl

/-- The prose before the first block is the description, and the rest is tags. -/
theorem readLines_eq (lines : List Line) : readLines lines = (leadingProse lines, tagsIn lines) := by
  induction lines with
  | nil => rfl
  | cons line lines ih =>
    rw [leadingProse_cons, tagsIn_cons]
    cases line with
    | tag key value =>
      rw [readLines, readTags_eq, Option.map_some, Tag.foldl_extend_opened]
      rfl
    | prose text =>
      rw [readLines, ih]
      rfl
    | close =>
      rw [readLines, readTags_eq]
      rfl
    | void =>
      rw [readLines, ih]
      rfl

theorem ofLines_eq (lines : List Line) :
    ofLines lines = ⟨DocMarkdown.description (leadingProse lines), tagsIn lines⟩ := by
  rw [ofLines, readLines_eq]

/-! ### Blocks of joined lines -/

theorem leadingProse_append (a b : List Line) :
    leadingProse (a ++ b) =
      leadingProse a ++ if a.any Line.beginsBlock then [] else leadingProse b := by
  induction a with
  | nil => rfl
  | cons line a ih =>
    rw [List.cons_append, leadingProse_cons, leadingProse_cons, List.any_cons, ih]
    cases line.beginsBlock
    · simp
    · rfl

/-- Behind the beginning of a block nothing belongs to the lines before it. -/
theorem leadingProse_append_close (front back : List Line) :
    leadingProse (front ++ .close :: back) = leadingProse front := by
  rw [leadingProse_append, leadingProse_cons]
  simp [Line.beginsBlock]

/-- Each tag line opens a tag, with the key of that line. -/
theorem map_key_tagsIn (lines : List Line) :
    (tagsIn lines).map Tag.key = lines.filterMap Line.key? := by
  induction lines with
  | nil => rfl
  | cons line lines ih =>
    rw [tagsIn_cons, List.map_append, ih]
    cases line <;> rfl

theorem tagsIn_append_close (front back : List Line) :
    tagsIn (front ++ .close :: back) = tagsIn front ++ tagsIn back := by
  induction front with
  | nil => exact tagsIn_cons .close back
  | cons line front ih =>
    rw [List.cons_append, tagsIn_cons, tagsIn_cons, ih, List.append_assoc]
    -- Only a tag depends on the lines below it, and not on those of other blocks.
    cases line with
    | tag key value => rw [tagAt?, leadingProse_append_close, tagAt?]
    | prose text => rfl
    | close => rfl
    | void => rfl

/-- Lines that open no tag add none before those behind them. -/
theorem tagsIn_append_of_keyless (keyless : ∀ line ∈ a, line.key? = none) :
    tagsIn (a ++ b) = tagsIn b := by
  induction a with
  | nil => rfl
  | cons line a ih =>
    rw [List.cons_append, tagsIn_cons, ih fun l member => keyless l (List.mem_cons_of_mem _ member)]
    cases line with
    | tag key value => nomatch keyless _ List.mem_cons_self
    | prose text => rfl
    | close => rfl
    | void => rfl

end Comment

/-! ### Prose that says nothing -/

namespace Line

/-- A line without the prose that makes up no paragraph. -/
def silence : Line → Line
  | prose text => if Tag.IsParagraph (Text.oneLine text) then prose text else void
  | line => line

/-- The marker by itself says nothing, whether or not it is made a paragraph mark. -/
theorem silence_ofBody (line : Text) : (ofBody line).silence = (ofText line).silence := by
  by_cases first : (line.dropWhile Text.isIndent).head? = some marker
  · obtain ⟨marked, left⟩ := List.head?_eq_some_iff.mp first
    rw [ofBody_of_marker left, ofText_of_marker left]
    split
    · next blank =>
      rw [ofMarked_of_blank blank]
      decide
    · rfl
  · rw [ofBody_of_no_marker first, ofText_of_no_marker first]

end Line

namespace Comment

theorem paragraphs_leadingProse_map_silence (lines : List Line) :
    Tag.paragraphs (leadingProse (lines.map Line.silence)) = Tag.paragraphs (leadingProse lines) := by
  induction lines with
  | nil => rfl
  | cons line lines ih =>
    cases line with
    | tag key value => rfl
    | close => rfl
    | void => exact ih
    | prose text =>
      rw [List.map_cons, Line.silence, leadingProse_prose, Tag.paragraphs_cons, ← ih]
      split
      · rw [leadingProse_prose, Tag.paragraphs_cons]
      · next silent =>
        rw [Tag.paragraphs_singleton_of_not silent]
        rfl

/-- Prose that makes up no paragraph belongs to no tag. -/
theorem tagsIn_map_silence (lines : List Line) : tagsIn (lines.map Line.silence) = tagsIn lines := by
  induction lines with
  | nil => rfl
  | cons line lines ih =>
    rw [List.map_cons, tagsIn_cons, tagsIn_cons, ih]
    congr 2
    cases line with
    | tag key value =>
      simp only [Line.silence, tagAt?, Tag.continued, paragraphs_leadingProse_map_silence]
    | prose text => rw [Line.silence]; split <;> rfl
    | close => rfl
    | void => rfl

theorem tagsIn_map_ofBody (lines : List Text) :
    tagsIn (lines.map Line.ofBody) = tagsIn (lines.map Line.ofText) := by
  rw [← tagsIn_map_silence, ← tagsIn_map_silence (lines.map Line.ofText), List.map_map,
    List.map_map]
  exact congrArg _ (List.map_congr_left fun line _ => Line.silence_ofBody line)

/-! ### The tags of a body -/

/-- The tags of a comment's body are its tag lines, each with the value on its line and the prose up
to the next line that starts with `@`. Lines with nothing but the marker do not matter, and a stray
`@` costs no tag and gives its prose to none. -/
theorem tags_ofText_markParagraphs (body : Text) :
    ∃ kinds, List.Forall₂ Line.Spells kinds (Text.lines (markParagraphs body)) ∧
      (ofText (markParagraphs body)).tags = tagsIn kinds ∧
      (ofText (markParagraphs body)).tags.map Tag.key = kinds.filterMap Line.key? ∧
      (ofText (markParagraphs body)).tags = (ofText (withMarker body)).tags ∧
      ∀ front between back, kinds = front ++ .close :: (between ++ back) →
        (∀ line ∈ between, line.key? = none) →
        (ofText (markParagraphs body)).tags = tagsIn front ++ tagsIn back := by
  have tags : (ofText (markParagraphs body)).tags =
      tagsIn ((Text.lines (markParagraphs body)).map Line.ofText) := by
    rw [ofText_eq, ofLines_eq]
  refine ⟨(Text.lines (markParagraphs body)).map Line.ofText, ?_, tags, ?_, ?_, ?_⟩
  · exact List.forall₂_map_left_iff.mpr
      (List.forall₂_same.mpr fun line _ => Line.spells_ofText line)
  · rw [tags, map_key_tagsIn]
  · rw [ofText_markParagraphs, ofLines_eq, tagsIn_map_ofBody, ofText_eq, ofLines_eq]
  · intro front between back split keyless
    rw [tags, split, tagsIn_append_close, tagsIn_append_of_keyless keyless]

-- The empty marker line and the stray `@` make no difference to the tags.
example :
    (ofText (markParagraphs "\n * @since 1\n *\n *   or 2\n * @ 3\n * lost\n * @new ".toList)).tags =
      [⟨"since", "1\n\n   or 2".toList⟩, ⟨"new", []⟩] := by decide

/-! ### A stray `@` in the description -/

/-- Only a stray `@` begins a block without opening a tag. -/
theorem any_beginsBlock_iff (keyless : ∀ line ∈ a, line.key? = none) :
    a.any Line.beginsBlock = true ↔ .close ∈ a := by
  have stray : ∀ line ∈ a, (line.beginsBlock = true ↔ line = .close) := by
    intro line member
    cases line with
    | tag key value => nomatch keyless _ member
    | prose text => exact iff_of_false Bool.false_ne_true nofun
    | close => exact iff_of_true rfl rfl
    | void => exact iff_of_false Bool.false_ne_true nofun
  rw [List.any_eq_true]
  constructor
  · rintro ⟨line, member, begins⟩
    rwa [← (stray line member).mp begins]
  · exact fun member => ⟨_, member, rfl⟩

theorem ofLines_append_close (keyless : ∀ line ∈ a, line.key? = none) :
    ofLines (a ++ .close :: b) = ⟨DocMarkdown.description (leadingProse a), tagsIn b⟩ := by
  rw [ofLines_eq, leadingProse_append_close, tagsIn_append_of_keyless keyless, tagsIn_cons]
  rfl

theorem ofLines_append (keyless : ∀ line ∈ a, line.key? = none) :
    ofLines (a ++ b) =
      ⟨DocMarkdown.description (leadingProse a ++ if .close ∈ a then [] else leadingProse b),
        tagsIn b⟩ := by
  rw [ofLines_eq, leadingProse_append, tagsIn_append_of_keyless keyless]
  simp only [any_beginsBlock_iff keyless]

theorem ofText_unlines {lines : List Text} (free : ∀ l ∈ lines, '\n' ∉ l) :
    ofText (Text.unlines lines) = ofLines (lines.map Line.ofText) := by
  by_cases empty : lines = []
  · subst empty
    rfl
  · rw [ofText_eq, Text.lines_unlines empty free]

theorem keyless_iff :
    (∀ line ∈ before.map Line.ofText, line.key? = none) ↔
      ∀ l ∈ before, ∀ key value, ¬ Line.Spells (.tag key value) l := by
  simp only [List.forall_mem_map, Line.spells_iff]
  refine forall₂_congr fun l _ => ?_
  cases Line.ofText l with
  | tag key value => exact iff_of_false nofun fun other => other key value rfl
  | prose text => exact iff_of_true rfl nofun
  | close => exact iff_of_true rfl nofun
  | void => exact iff_of_true rfl nofun

theorem close_mem_map_ofText :
    .close ∈ before.map Line.ofText ↔ ∃ l ∈ before, Line.Spells .close l := by
  simp only [List.mem_map, Line.spells_iff]

/-- A stray `@` before the tags ends the description: what prose there is between it and the first
tag is lost, unless an earlier one ended the description already. It changes no tag. -/
theorem ofText_stray (free : ∀ l ∈ before ++ s :: after, '\n' ∉ l)
    (stray : Line.Spells .close s)
    (tagless : ∀ l ∈ before, ∀ key value, ¬ Line.Spells (.tag key value) l) :
    (ofText (Text.unlines (before ++ s :: after))).tags =
        (ofText (Text.unlines (before ++ after))).tags ∧
      (ofText (Text.unlines (before ++ s :: after))).description =
        DocMarkdown.description (leadingProse (before.map Line.ofText)) ∧
      ((∀ l ∈ before, ¬ Line.Spells .close l) →
        (ofText (Text.unlines (before ++ after))).description =
          DocMarkdown.description
            (leadingProse (before.map Line.ofText) ++ leadingProse (after.map Line.ofText))) ∧
      ((∃ l ∈ before, Line.Spells .close l) ∨ leadingProse (after.map Line.ofText) = [] →
        ofText (Text.unlines (before ++ s :: after)) = ofText (Text.unlines (before ++ after))) := by
  have keyless := keyless_iff.mpr tagless
  have closed : ofText (Text.unlines (before ++ s :: after)) =
      ⟨DocMarkdown.description (leadingProse (before.map Line.ofText)),
        tagsIn (after.map Line.ofText)⟩ := by
    rw [ofText_unlines free, List.map_append, List.map_cons, stray.ofText_eq,
      ofLines_append_close keyless]
  have remaining : ∀ l ∈ before ++ after, '\n' ∉ l := fun l member =>
    free l (((List.sublist_cons_self s after).append_left before).subset member)
  have joined : ofText (Text.unlines (before ++ after)) =
      ⟨DocMarkdown.description (leadingProse (before.map Line.ofText) ++
        if .close ∈ before.map Line.ofText then [] else leadingProse (after.map Line.ofText)),
        tagsIn (after.map Line.ofText)⟩ := by
    rw [ofText_unlines remaining, List.map_append, ofLines_append keyless]
  rw [closed, joined]
  refine ⟨rfl, rfl, fun none => ?_, ?_⟩
  · have absent : ¬ .close ∈ before.map Line.ofText := by
      rw [close_mem_map_ofText]
      exact fun ⟨l, inside, spells⟩ => none l inside spells
    rw [if_neg absent]
  · rintro (ended | silent)
    · rw [if_pos (close_mem_map_ofText.mpr ended), List.append_nil]
    · rw [silent, ite_self, List.append_nil]

/-- A stray `@` between two lines of prose. -/
theorem ofText_stray_between :
    (∀ l ∈ ["* One.".toList, "* @ 2".toList, "* Two.".toList], '\n' ∉ l) ∧
      Line.Spells .close "* @ 2".toList ∧
      (∀ l ∈ ["* One.".toList], ∀ key value, ¬ Line.Spells (.tag key value) l) ∧
      (ofText (Text.unlines ["* One.".toList, "* @ 2".toList, "* Two.".toList])).description =
        DocMarkdown.description ["One.".toList] ∧
      (ofText (Text.unlines ["* One.".toList, "* Two.".toList])).description =
        DocMarkdown.description ["One.".toList, "Two.".toList] := by
  have free : ∀ l ∈ ["* One.".toList] ++ "* @ 2".toList :: ["* Two.".toList], '\n' ∉ l := by decide
  have stray : Line.Spells .close "* @ 2".toList := by decide
  have tagless : ∀ l ∈ ["* One.".toList], ∀ key value, ¬ Line.Spells (.tag key value) l :=
    keyless_iff.mp (by decide)
  obtain ⟨-, closed, joined, -⟩ := ofText_stray free stray tagless
  exact ⟨free, stray, tagless, closed, joined (by decide)⟩

/-- The prose behind a stray `@` is not in the description, where it would stand without it. -/
theorem ofText_stray_loses :
    Line.Spells .close "* @ 2".toList ∧
      (∀ l ∈ ["* One.".toList], ∀ key value, ¬ Line.Spells (.tag key value) l) ∧
      ofText (Text.unlines ["* One.".toList, "* @ 2".toList, "* Two.".toList]) =
        ⟨"One.".toList, []⟩ ∧
      ofText (Text.unlines ["* One.".toList, "* Two.".toList]) = ⟨"One. Two.".toList, []⟩ := by
  have one : DocMarkdown.description ["One.".toList] = "One.".toList := by
    rw [description_paragraph (by decide) (by decide)]
    rfl
  have two : DocMarkdown.description ["One.".toList, "Two.".toList] = "One. Two.".toList := by
    rw [description_paragraph (by decide) (by decide)]
    rfl
  exact ⟨by decide, keyless_iff.mp (by decide), congrArg (mk · []) one, congrArg (mk · []) two⟩

end Comment

end DocMarkdown
