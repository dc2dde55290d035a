import DocMarkdown.Proofs.Comment.Prose
import DocMarkdown.Proofs.Text.Feeds
import DocMarkdown.Proofs.Text.Tidiness

/-!
# The normal form of descriptions

Paragraph marks and code marks may stand anywhere in prose, in any number, and so may spaces. Yet a
description is in normal form: it is tidy, has no two empty lines in a row, and marks no paragraphs.
Each step towards it brings about one part of this form, and the steps after it keep that part, as
they put no two characters side by side that were not, but for the delimiters of code.

## Main definitions

* `Description.IsNormal` — the normal form of descriptions

## Main results

* `not_infix_breakParagraphs` — no paragraph mark is left, and no replacement makes a new one
* `isTidy_joinBreaks`, `sparse_joinBreaks` — joining breaks keeps a text tidy
* `infix_of_infix_spanCode`, `isTidy_spanCode` — code marks do not matter to all this
* `isNormal_description_ofText` — descriptions are in normal form
-/

namespace DocMarkdown

variable {after before code mark t : Text} {b c : Char}

namespace Description

/-! ### Marked code -/

/-- The parts that a text with marked code in it is cut into. -/
theorem exists_eq_of_cutCode (h : cutCode t = some (before, code, after)) :
    ∃ opened closed : Text, opened.map Char.toLower = codeOpening ∧
      closed.map Char.toLower = codeClosing ∧
      t = before ++ opened ++ (code ++ closed ++ after) := by
  simp only [cutCode, Option.bind_eq_bind, Option.bind_eq_some_iff, Option.some.injEq,
    Prod.mk.injEq] at h
  obtain ⟨⟨_, inner⟩, cutOpening, ⟨_, _⟩, cutClosing, rfl, rfl, rfl⟩ := h
  obtain ⟨rest, openingDropped, rfl⟩ := Text.exists_of_cutWith cutOpening
  obtain ⟨opened, opening, rfl⟩ := Text.dropFolded?_eq_some_iff.mp openingDropped
  obtain ⟨rest, closingDropped, rfl⟩ := Text.exists_of_cutWith cutClosing
  obtain ⟨closed, closing, rfl⟩ := Text.dropFolded?_eq_some_iff.mp closingDropped
  exact ⟨opened, closed, opening, closing, by simp only [List.append_assoc]⟩

theorem append_inlineCode_append (before code t : Text) :
    before ++ inlineCode code ++ t = before ++ '`' :: (code ++ '`' :: t) := by
  simp [inlineCode, codeMark]

/-- What holds no delimiter is not made where marked code becomes code. -/
theorem infix_of_infix_spanCode (absent : '`' ∉ mark) (h : mark <:+: spanCode t) : mark <:+: t := by
  fun_induction spanCode t with
  | case1 => exact h
  | case2 t before code after found ih =>
    obtain ⟨opened, closed, -, -, rfl⟩ := exists_eq_of_cutCode found
    rw [append_inlineCode_append, Text.infix_append_cons_iff absent,
      Text.infix_append_cons_iff absent] at h
    rcases h with h | h | h
    · exact h.trans ⟨[], opened ++ (code ++ closed ++ after), by simp⟩
    · exact h.trans ⟨before ++ opened, closed ++ after, by simp⟩
    · exact (ih h).trans ⟨before ++ opened ++ (code ++ closed), [], by simp⟩

/-- A text begins as before when marked code becomes code, or with a delimiter. -/
theorem head?_spanCode (h : c ∈ (spanCode t).head?) : c ∈ t.head? ∨ c = '`' := by
  rw [spanCode] at h
  split at h
  · exact Or.inl h
  · next before code after found =>
    obtain ⟨opened, closed, -, -, rfl⟩ := exists_eq_of_cutCode found
    rw [append_inlineCode_append] at h
    cases before with
    | nil => exact Or.inr (Option.some.inj h).symm
    | cons d before => exact Or.inl h

/-- A text ends as before when marked code becomes code, or with a delimiter. -/
theorem getLast?_spanCode (h : c ∈ (spanCode t).getLast?) : c ∈ t.getLast? ∨ c = '`' := by
  fun_induction spanCode t with
  | case1 => exact Or.inl h
  | case2 t before code after found ih =>
    obtain ⟨opened, closed, -, -, rfl⟩ := exists_eq_of_cutCode found
    have delimited : before ++ inlineCode code ++ spanCode after =
        (before ++ '`' :: code) ++ '`' :: spanCode after := by
      rw [append_inlineCode_append, List.append_assoc, List.cons_append]
    rw [delimited, List.getLast?_append_of_ne_nil _ (List.cons_ne_nil _ _)] at h
    cases rest : spanCode after with
    | nil =>
      rw [rest] at h
      exact Or.inr (Option.some.inj h).symm
    | cons d u =>
      rw [rest, List.getLast?_cons_cons, ← rest] at h
      refine (ih h).imp_left fun last => ?_
      rw [← List.append_assoc, List.getLast?_append, last]
      rfl

theorem isTidy_spanCode (h : Text.IsTidy t) : Text.IsTidy (spanCode t) where
  trim_eq_self := by
    obtain ⟨first, last⟩ := Text.trim_eq_self_iff.mp h.trim_eq_self
    have delimiter : Text.isBlank '`' = false := by decide
    refine Text.trim_eq_self_iff.mpr ⟨fun c hc => ?_, fun c hc => ?_⟩
    · rcases head?_spanCode hc with hc | rfl
      · exact first c hc
      · exact delimiter
    · rcases getLast?_spanCode hc with hc | rfl
      · exact last c hc
      · exact delimiter
  single inside := h.single (infix_of_infix_spanCode (by decide) inside)
  after c hc inside := by
    have apart : '`' ≠ c := by
      rintro rfl
      exact absurd hc (by decide)
    exact h.after c hc (infix_of_infix_spanCode (by simp [apart]) inside)
  before c hc inside := by
    have apart : '`' ≠ c := by
      rintro rfl
      exact absurd hc (by decide)
    exact h.before c hc (infix_of_infix_spanCode (by simp [apart]) inside)

/-! ### Joined breaks -/

/-- Joining breaks puts no two characters side by side that were not. -/
theorem pair_infix_of_joinBreaks (h : [b, c] <:+: joinBreaks t) : [b, c] <:+: t := by
  induction t with
  | nil => exact h
  | cons x t ih =>
    rw [Text.pair_infix_cons_iff]
    rw [joinBreaks] at h
    split at h
    · exact Or.inr (ih h)
    · rw [Text.pair_infix_cons_iff, head?_joinBreaks] at h
      exact h.imp_right ih

theorem isTidy_joinBreaks (h : Text.IsTidy t) : Text.IsTidy (joinBreaks t) where
  trim_eq_self := by rw [actsOnBlanks_joinBreaks.trim_comm, h.trim_eq_self]
  single inside := h.single (pair_infix_of_joinBreaks inside)
  after c hc inside := h.after c hc (pair_infix_of_joinBreaks inside)
  before c hc inside := h.before c hc (pair_infix_of_joinBreaks inside)

/-- Of breaks that are joined, no two empty lines in a row are left. -/
theorem sparse_joinBreaks (t : Text) : ¬ Text.emptyLines <:+: joinBreaks t := by
  induction t with
  | nil => decide
  | cons c t ih =>
    rw [joinBreaks]
    split
    · exact ih
    · next kept =>
      rw [List.infix_cons_iff, not_or]
      refine ⟨fun two => kept ?_, ih⟩
      obtain ⟨rfl, more⟩ := List.cons_prefix_cons.mp two
      rw [Bool.and_eq_true, List.isPrefixOf_iff_prefix]
      exact ⟨rfl, more⟩

/-! ### Paragraph marks -/

/-- No paragraph mark is left, and no replacement makes a new one. -/
theorem not_infix_breakParagraphs (h : IsParagraphMark mark) (t : Text) :
    ¬ mark <:+: breakParagraphs t := by
  have dropped : ∀ u, dropParagraph? (mark ++ u) ≠ none := by
    intro u
    rw [drops_dropParagraph?.mark_append h]
    exact Option.some_ne_none u
  have apart : ∀ c ∈ ['\n', '\n'], c ∉ mark := by
    intro c hc member
    have feed : c = '\n' := by simpa using hc
    rw [feed] at member
    exact absurd (h.visible _ member) (by decide)
  exact Text.not_infix_replaceWith h.ne_nil dropped (List.cons_ne_nil _ _) apart t

/-! ### The normal form -/

/-- The normal form of descriptions. -/
structure IsNormal (t : Text) : Prop extends Text.IsTidy t where
  /-- There are no three line feeds in a row. -/
  sparse : ¬ ['\n', '\n', '\n'] <:+: t
  /-- No paragraph mark stands anywhere, in either letter case. -/
  unmarked : ∀ mark, IsParagraphMark mark → ¬ mark <:+: t

end Description

theorem isTidy_description (lines : List Text) : Text.IsTidy (description lines) :=
  Description.isTidy_spanCode (Description.isTidy_joinBreaks (Text.isTidy_tidy _))

theorem sparse_description (lines : List Text) : ¬ Text.emptyLines <:+: description lines :=
  fun two => Description.sparse_joinBreaks _ (Description.infix_of_infix_spanCode (by decide) two)

theorem unmarked_description (h : Description.IsParagraphMark mark) (lines : List Text) :
    ¬ mark <:+: description lines := by
  intro marked
  have apart : '`' ∉ mark := h.not_mem rfl (by decide)
  have before := Description.infix_of_infix_spanCode apart marked
  -- The spacing concerns blanks, of which the mark has none.
  rw [← Description.settle_trim,
    Description.actsOnBlanks_settle.infix_iff h.ne_nil h.visible] at before
  exact Description.not_infix_breakParagraphs h _ (before.trans (Text.trim_isInfix _))

theorem isCompact_description_ofText (comment : Text) :
    Text.IsCompact (Comment.ofText comment).description ∧
      (Comment.ofText comment).description.head? ≠ some '\n' := by
  have tidy : Text.IsTidy (Comment.ofText comment).description := isTidy_description _
  obtain ⟨first, last⟩ := Text.trim_eq_self_iff.mp tidy.trim_eq_self
  have feed : ¬ Text.isBlank '\n' = false := by decide
  exact ⟨⟨sparse_description _, fun ends => feed (last _ ends)⟩,
    fun begins => feed (first _ begins)⟩

/-- Descriptions are in normal form, whatever the comment: without blanks at the ends, with single
spaces, of which none stands right after a line end or a tab or right before a line end, without
two empty lines in a row, and without paragraph marks. -/
theorem isNormal_description_ofText (comment : Text) :
    Description.IsNormal (Comment.ofText comment).description where
  toIsTidy := isTidy_description _
  sparse := sparse_description _
  unmarked _ h := unmarked_description h _

end DocMarkdown
