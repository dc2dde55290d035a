import DocMarkdown.Proofs.Text.Joining
import DocMarkdown.Proofs.Text.SpacingRule

/-!
# Texts on one line

To put a text on one line is to take out its words and to join them by single spaces. A word here is
what stands between runs of spaces and breaks; other blanks are a part of the words, unless they
stand at the ends of the text. As tidying only takes spaces away where others or breaks are left,
it does not join two words, and may be done before or after.

## Main definitions

* `Text.isSeparator` — the characters between which words stand on one line

## Main results

* `squeeze_unbroken_run`, `squeeze_unbroken_other` — a single stretch put on one line
* `oneLine_eq_join` — the words of a text, joined by spaces
* `oneLine_oneLine` — a text that is on one line stays as it is
* `squeeze_unbroken_spaced`, `oneLine_tidy` — tidying makes no difference to the words
* `oneLine_flattens` — all that a text on one line is, and how it goes with tidying
-/

namespace DocMarkdown.Text

variable {stop : Char → Bool} {t u : Text} {c : Char}

/-- The characters between which words stand on one line: space, tab, line feed and carriage
return. -/
def isSeparator (c : Char) : Bool := c == ' ' || isBreak c

theorem ne_space_of_not_isSeparator (h : isSeparator c = false) : (c == ' ') = false :=
  (Bool.or_eq_false_iff.mp h).1

theorem isBreak_of_not_isSeparator (h : isSeparator c = false) : isBreak c = false :=
  (Bool.or_eq_false_iff.mp h).2

/-- A separator becomes a space. -/
theorem unbroken_cons_of_isSeparator (h : isSeparator c = true) (t : Text) :
    unbroken (c :: t) = ' ' :: unbroken t := by
  rw [isSeparator, Bool.or_eq_true, beq_iff_eq] at h
  rcases h with rfl | breaks
  · rfl
  · simp [unbroken, breaks]

/-! ### One stretch after the other -/

/-- A run of separators becomes a single space. -/
theorem squeeze_unbroken_run (h : IsStretch isSeparator true u t) :
    squeeze (unbroken (u ++ t)) = ' ' :: squeeze (unbroken t) := by
  have spaces : ∀ c ∈ unbroken u, (c == ' ') = true := by
    intro c hc
    obtain ⟨x, hx, rfl⟩ := List.mem_map.mp hc
    have separates := h.uniform x hx
    split
    · rfl
    · next unbroken => simpa [isSeparator, unbroken] using separates
  have stops : ∀ c ∈ (unbroken t).head?, (c == ' ') = false := by
    intro c hc
    rw [unbroken, List.head?_map, Option.mem_def, Option.map_eq_some_iff] at hc
    obtain ⟨x, hx, rfl⟩ := hc
    have other := h.stops x hx
    rw [isBreak_of_not_isSeparator other]
    exact ne_space_of_not_isSeparator other
  have nonempty : unbroken u ≠ [] := mt List.map_eq_nil_iff.mp h.ne_nil
  rw [← squeeze_run nonempty spaces stops, unbroken, unbroken, unbroken, List.map_append]

/-- Any other stretch stays. -/
theorem squeeze_unbroken_other (h : IsStretch isSeparator false u t) :
    squeeze (unbroken (u ++ t)) = u ++ squeeze (unbroken t) := by
  have same : unbroken u = u :=
    unbroken_eq_self fun c hc => isBreak_of_not_isSeparator (h.uniform c hc)
  have whole : unbroken (u ++ t) = u ++ unbroken t := by
    rw [unbroken, List.map_append, ← unbroken, ← unbroken, same]
  rw [whole]
  exact dropSpacesBefore_append fun c hc => ne_space_of_not_isSeparator (h.uniform c hc)

/-- Squeezed and without breaks, a text that does not end with a separator is its words joined by
spaces, behind one more space if it begins with a separator. -/
theorem squeeze_unbroken_eq (ends : ∀ c ∈ t.getLast?, isSeparator c = false) :
    squeeze (unbroken t) =
      (if t.head?.any isSeparator then [' '] else []) ++
        [' '].intercalate (between isSeparator t) := by
  induction t using stretch_induction isSeparator with
  | nil => rfl
  | run u t h ih =>
    -- The text does not end with this run, so a word comes next.
    have nonempty : t ≠ [] := by
      rintro rfl
      have last := List.getLast?_eq_some_getLast h.ne_nil
      rw [List.append_nil] at ends
      have separates := h.uniform _ (List.getLast_mem h.ne_nil)
      rw [ends _ last] at separates
      cases separates
    rw [List.getLast?_append_of_ne_nil u nonempty] at ends
    rw [squeeze_unbroken_run h, ih ends, h.any_head?_rest nonempty, h.any_head?, h.between_eq]
    rfl
  | other u t h ih =>
    rw [squeeze_unbroken_other h, h.any_head?, h.between_eq_of_outside]
    by_cases empty : t = []
    · rw [empty, between_nil, List.intercalate_singleton]
      exact List.append_nil u
    · -- A separator comes next, and another word behind it, which ends the text.
      rw [List.getLast?_append_of_ne_nil u empty] at ends
      have more : between isSeparator t ≠ [] := by
        intro none
        have separates := all_of_between_eq_nil none _ (List.getLast_mem empty)
        rw [ends _ (List.getLast?_eq_some_getLast empty)] at separates
        cases separates
      rw [ih ends, h.any_head?_rest empty, List.intercalate_cons_of_ne_nil more,
        List.append_assoc]
      rfl

/-- A text on one line is its words, joined by single spaces. -/
theorem oneLine_eq_join (s : Text) :
    oneLine s = [' '].intercalate (between isSeparator (trim s)) := by
  have acts := actsOnBlanks_squeeze.comp actsOnBlanks_unbroken
  obtain ⟨first, last⟩ := trim_eq_self_iff.mp (trim_trim s)
  have ink : ∀ {c}, isBlank c = false → isSeparator c = false := by
    intro c visible
    rw [isSeparator, Bool.or_eq_false_iff]
    exact ⟨Bool.eq_false_iff.mpr (mt isBlank_of_eq_space (by simp [visible])),
      Bool.eq_false_iff.mpr (mt isBlank_of_isBreak (by simp [visible]))⟩
  have begins : (trim s).head?.any isSeparator = false :=
    (Option.any_eq_false _ _).mpr fun c hc => ink (first c hc)
  rw [oneLine_eq, acts.trim_comm, squeeze_unbroken_eq fun c hc => ink (last c hc), begins]
  rfl

/-- On one line there is something of every text that is not blank. -/
theorem oneLine_eq_nil_iff : oneLine t = [] ↔ trim t = [] := by
  rw [oneLine_eq, (actsOnBlanks_squeeze.comp actsOnBlanks_unbroken).trim_comm,
    actsOnBlanks_squeeze.eq_nil_iff, actsOnBlanks_unbroken.eq_nil_iff]

/-- A text that is on one line stays as it is. -/
theorem oneLine_oneLine (t : Text) : oneLine (oneLine t) = oneLine t := by
  rw [oneLine_eq_tidy (oneLine t), unbroken_eq_self fun _ => isBreak_of_mem_oneLine]
  exact isTidy_iff.mp (isTidy_tidy (unbroken t))

theorem mem_of_mem_oneLine (ink : isBlank c = false) (member : c ∈ oneLine t) : c ∈ t := by
  rw [oneLine_eq] at member
  exact ((actsOnBlanks_squeeze.comp actsOnBlanks_unbroken).mem_iff ink).mp (mem_of_mem_trim member)

/-- No character but separators is lost or moved. -/
theorem filter_not_isSeparator_oneLine (s : Text) :
    (oneLine s).filter (!isSeparator ·) = (trim s).filter (!isSeparator ·) := by
  have unbroken_eq (t : Text) :
      (unbroken t).filter (!isSeparator ·) = t.filter (!isSeparator ·) := by
    induction t with
    | nil => rfl
    | cons c t ih =>
      cases separates : isSeparator c with
      | true =>
        rw [unbroken_cons_of_isSeparator separates, List.filter_cons_of_neg (by decide), ih,
          List.filter_cons_of_neg (by simp [separates])]
      | false =>
        have same : unbroken (c :: t) = c :: unbroken t := by
          simp [unbroken, isBreak_of_not_isSeparator separates]
        rw [same, List.filter_cons, List.filter_cons, ih]
  rw [oneLine_eq, (actsOnBlanks_squeeze.comp actsOnBlanks_unbroken).trim_comm, squeeze,
    filter_dropSpacesBefore _ (by decide), unbroken_eq]

/-! ### Tidying before and after -/

theorem squeeze_unbroken_dropSpacesBefore (separates : ∀ c, stop c = true → isSeparator c = true)
    (t : Text) : squeeze (unbroken (dropSpacesBefore stop t)) = squeeze (unbroken t) := by
  induction t with
  | nil => rfl
  | cons c t ih =>
    rw [dropSpacesBefore]
    split
    · next dropped =>
      -- What is kept begins with a separator, so it begins with a space in either case.
      rw [Bool.and_eq_true, beq_iff_eq, Option.any_eq_true] at dropped
      obtain ⟨rfl, d, first, stops⟩ := dropped
      obtain ⟨rest, same⟩ := List.head?_eq_some_iff.mp first
      calc squeeze (unbroken (dropSpacesBefore stop t))
          = squeeze (' ' :: unbroken rest) := by
            rw [same, unbroken_cons_of_isSeparator (separates d stops)]
        _ = squeeze (' ' :: ' ' :: unbroken rest) := (squeeze_space_space _).symm
        _ = squeeze (' ' :: unbroken (dropSpacesBefore stop t)) := by
            rw [same, unbroken_cons_of_isSeparator (separates d stops)]
        _ = squeeze (unbroken (' ' :: t)) := squeeze_cons_congr ih
    · exact squeeze_cons_congr ih

theorem squeeze_unbroken_dropSpacesAfter (separates : ∀ c, stop c = true → isSeparator c = true)
    (t : Text) : squeeze (unbroken (dropSpacesAfter stop false t)) = squeeze (unbroken t) := by
  -- Where spaces are skipped, a separator stands before them, which is a space by then.
  have general : squeeze (unbroken (dropSpacesAfter stop false t)) = squeeze (unbroken t) ∧
      ∀ skipping, squeeze (' ' :: unbroken (dropSpacesAfter stop skipping t)) =
        squeeze (' ' :: unbroken t) := by
    induction t with
    | nil => exact ⟨rfl, fun _ => rfl⟩
    | cons c t ih =>
      have kept : squeeze (unbroken (c :: dropSpacesAfter stop (stop c) t)) =
          squeeze (unbroken (c :: t)) := by
        cases stops : stop c with
        | true =>
          rw [unbroken_cons_of_isSeparator (separates c stops),
            unbroken_cons_of_isSeparator (separates c stops)]
          exact ih.2 true
        | false => exact squeeze_cons_congr ih.1
      refine ⟨kept, fun skipping => ?_⟩
      rw [dropSpacesAfter]
      split
      · next dropped =>
        obtain ⟨-, rfl⟩ : skipping = true ∧ c = ' ' := by simpa using dropped
        exact (ih.2 true).trans (squeeze_space_space _).symm
      · exact squeeze_cons_congr kept
  exact general.1

/-- Spacing makes no difference to a text that is then put on one line. -/
theorem squeeze_unbroken_spaced (t : Text) :
    squeeze (unbroken (spaced t)) = squeeze (unbroken t) := by
  have breaks : ∀ c, isBreak c = true → isSeparator c = true := fun c h => by
    rw [isSeparator, h, Bool.or_true]
  have lineEnds : ∀ c, isLineEnd c = true → isSeparator c = true := fun c h =>
    breaks c (by rw [isBreak, h, Bool.true_or])
  have spaces : ∀ c, (c == ' ') = true → isSeparator c = true := fun c h => by
    rw [isSeparator, h, Bool.true_or]
  calc squeeze (unbroken (spaced t))
      = squeeze (unbroken (dropSpacesBefore isLineEnd (dropSpacesAfter isBreak false t))) :=
        squeeze_unbroken_dropSpacesBefore spaces _
    _ = squeeze (unbroken (dropSpacesAfter isBreak false t)) :=
        squeeze_unbroken_dropSpacesBefore lineEnds _
    _ = squeeze (unbroken t) := squeeze_unbroken_dropSpacesAfter breaks t

/-- A text may be tidied before it is put on one line. -/
theorem oneLine_tidy (s : Text) : oneLine (tidy s) = oneLine s := by
  rw [oneLine_eq, tidy_eq, squeeze_unbroken_spaced, ← oneLine_eq, oneLine_trim]

/-- A text on one line is tidy. -/
theorem tidy_oneLine (s : Text) : tidy (oneLine s) = oneLine s :=
  isTidy_iff.mp (isTidy_tidy (unbroken s))

/-- A text on one line is the words of the trimmed text, which are the pieces between its runs of
spaces, tabs, line feeds and carriage returns, joined by single spaces. So it holds no line feed,
carriage return or tab and no two spaces in a row, keeps every other character in order, and stays
as it is when it is put on one line again. Tidying makes no difference, before or after. -/
theorem oneLine_flattens (s : Text) :
    oneLine s = [' '].intercalate (between isSeparator (trim s)) ∧
      (∀ c ∈ oneLine s, c ≠ '\n' ∧ c ≠ '\r' ∧ c ≠ '\t') ∧
      ¬ [' ', ' '] <:+: oneLine s ∧
      (oneLine s).filter (!isSeparator ·) = (trim s).filter (!isSeparator ·) ∧
      oneLine (oneLine s) = oneLine s ∧
      oneLine (tidy s) = oneLine s ∧ tidy (oneLine s) = oneLine s := by
  refine ⟨oneLine_eq_join s, ?_, (isTidy_tidy (unbroken s)).single,
    filter_not_isSeparator_oneLine s, oneLine_oneLine s, oneLine_tidy s, tidy_oneLine s⟩
  intro c member
  have unbroken := isBreak_of_mem_oneLine member
  refine ⟨?_, ?_, ?_⟩ <;> rintro rfl <;> exact absurd unbroken (by decide)

end DocMarkdown.Text
