import DocMarkdown.Proofs.Text.Spacing

/-!
# What a tidy text looks like

A tidy text can be told by looking at its ends and at each two characters next to each other. Every
step of tidying rules out one kind of such pairs and makes none of those that are ruled out already,
so what is tidied is tidy. The steps change nothing where there is no pair of their kind, so a tidy
text is left as it is.

## Main definitions

* `Text.IsTidy` — a text with tidy spacing

## Main results

* `pair_infix_of_dropSpacesBefore` — what dropping spaces before characters puts side by side
* `isTidy_tidy` — tidying makes a text tidy
* `isTidy_iff` — a text is tidy if and only if tidying does not change it
-/

namespace DocMarkdown.Text

variable {stop : Char → Bool} {skipping : Bool} {t : Text} {b c : Char}

/-- A text with tidy spacing. -/
structure IsTidy (t : Text) : Prop where
  /-- No blanks stand at its ends. -/
  trim_eq_self : trim t = t
  /-- No two spaces stand next to each other. -/
  single : ¬ [' ', ' '] <:+: t
  /-- No space stands right after a line end or a tab. -/
  after : ∀ c, isBreak c = true → ¬ [c, ' '] <:+: t
  /-- No space stands right before a line end. -/
  before : ∀ c, isLineEnd c = true → ¬ [' ', c] <:+: t

/-! ### Characters next to each other -/

theorem head?_dropSpacesAfter_true : (dropSpacesAfter stop true t).head? ≠ some ' ' := by
  induction t with
  | nil => exact nofun
  | cons x t ih =>
    rw [dropSpacesAfter, Bool.true_and]
    split
    · exact ih
    · next other => simpa using other

/-- No spaces are left after the characters at which they are dropped. -/
theorem not_pair_infix_dropSpacesAfter (hc : stop c = true) :
    ¬ [c, ' '] <:+: dropSpacesAfter stop skipping t := by
  induction t generalizing skipping with
  | nil => simp [dropSpacesAfter]
  | cons x t ih =>
    rw [dropSpacesAfter]
    split
    · exact ih
    · rw [pair_infix_cons_iff, not_or]
      refine ⟨?_, ih⟩
      rintro ⟨rfl, next⟩
      rw [hc] at next
      exact head?_dropSpacesAfter_true next

/-- No spaces are left before the characters at which they are dropped. -/
theorem not_pair_infix_dropSpacesBefore (hc : stop c = true) :
    ¬ [' ', c] <:+: dropSpacesBefore stop t := by
  induction t with
  | nil => simp [dropSpacesBefore]
  | cons x t ih =>
    rw [dropSpacesBefore]
    split
    · exact ih
    · next kept =>
      rw [pair_infix_cons_iff, not_or]
      refine ⟨?_, ih⟩
      rintro ⟨rfl, next⟩
      exact kept (by simp [next, hc])

/-- A text begins as it did if it begins with a space, or where no spaces are dropped. -/
theorem head?_of_head?_dropSpacesBefore (hc : c = ' ' ∨ stop c = false)
    (first : (dropSpacesBefore stop t).head? = some c) : t.head? = some c := by
  cases t with
  | nil => exact first
  | cons x t =>
    rw [dropSpacesBefore] at first
    split at first
    · next dropped =>
      -- The character stands where spaces are dropped, so it is one of them, as is `x`.
      rw [first, Bool.and_eq_true, beq_iff_eq, Option.any_some] at dropped
      have space : c = ' ' := hc.resolve_right (by simp [dropped.2])
      rw [List.head?_cons, dropped.1, space]
    · exact first

/-- Characters that are next to each other when spaces are dropped were so before, if the second is
a space, or none at which they are dropped. -/
theorem pair_infix_of_dropSpacesBefore (hc : c = ' ' ∨ stop c = false)
    (h : [b, c] <:+: dropSpacesBefore stop t) : [b, c] <:+: t := by
  induction t with
  | nil => exact h
  | cons x t ih =>
    rw [dropSpacesBefore] at h
    rw [pair_infix_cons_iff]
    split at h
    · exact Or.inr (ih h)
    · exact (pair_infix_cons_iff.mp h).imp
        (And.imp_right (head?_of_head?_dropSpacesBefore hc)) ih

/-! ### Tidying makes tidy -/

/-- Tidying makes a text tidy. -/
theorem isTidy_tidy (t : Text) : IsTidy (tidy t) where
  trim_eq_self := trim_tidy t
  single := not_pair_infix_dropSpacesBefore rfl
  after c hc inside := not_pair_infix_dropSpacesAfter hc
    (pair_infix_of_dropSpacesBefore (Or.inl rfl)
      (pair_infix_of_dropSpacesBefore (Or.inl rfl) inside))
  before c hc inside := by
    have visible : (c == ' ') = false := by
      rw [beq_eq_false_iff_ne]
      rintro rfl
      exact absurd hc (by decide)
    exact not_pair_infix_dropSpacesBefore hc
      (pair_infix_of_dropSpacesBefore (Or.inr visible) inside)

/-! ### What is tidy stays -/

theorem IsTidy.spaced_eq_self (h : IsTidy t) : spaced t = t := by
  have squeezed : squeeze t = t := by
    apply dropSpacesBefore_eq_self
    intro c space
    rw [beq_iff_eq.mp space]
    exact h.single
  rw [spaced, dropSpacesAfter_eq_self h.after,
    dropSpacesBefore_eq_self h.before, squeezed]

/-- A text is tidy if and only if tidying does not change it. -/
theorem isTidy_iff : IsTidy t ↔ tidy t = t := by
  constructor
  · intro h
    rw [tidy_eq, h.trim_eq_self, h.spaced_eq_self]
  · intro same
    exact same ▸ isTidy_tidy t

end DocMarkdown.Text
