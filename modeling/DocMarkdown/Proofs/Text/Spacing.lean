import DocMarkdown.Proofs.Text.Trimming
import DocMarkdown.Text.Spacing

/-!
# Spacing as a change of blanks

The steps of tidying act on blanks only, so that the end of trimming and the middle of a text can be
looked at apart. On a single line all that is left of them is the squeezing of runs of spaces.

## Main definitions

* `Text.squeeze` — runs of spaces become single spaces
* `Text.spaced` — tidying without trimming
* `Text.unbroken` — a text with spaces for its breaks

## Main results

* `actsOnBlanks_spaced`, `actsOnBlanks_squeeze`, `actsOnBlanks_unbroken` — the steps act on blanks
* `tidy_sublist` — tidying drops characters only
* `dropSpacesAfter_eq_self`, `dropSpacesBefore_eq_self` — where nothing is to be dropped
* `oneLine_eq` — a text on one line, with all its spacing done by squeezing
* `oneLine_trim`, `tidy_trim` — what stands at the ends of a text does not matter
* `spaced_eq_self` — a line that is tidy by itself needs no spacing
-/

namespace DocMarkdown.Text

variable {stop : Char → Bool} {t u : Text} {b c x : Char}

/-- A text with its runs of spaces shortened to single spaces. -/
def squeeze (t : Text) : Text := dropSpacesBefore (· == ' ') t

/-- A text with the spacing of a tidy text, whatever stands at its ends. -/
def spaced (t : Text) : Text :=
  squeeze (dropSpacesBefore isLineEnd (dropSpacesAfter isBreak false t))

/-- A text with spaces for its breaks. -/
def unbroken (t : Text) : Text := t.map fun c => if isBreak c then ' ' else c

theorem tidy_eq (t : Text) : tidy t = spaced (trim t) := rfl

theorem oneLine_eq_tidy (t : Text) : oneLine t = tidy (unbroken t) := rfl

/-! ### The steps act on blanks only -/

theorem isBlank_of_isBreak (h : isBreak c = true) : isBlank c = true := by
  simp only [isBreak, isLineEnd, Bool.or_eq_true, beq_iff_eq] at h
  rcases h with (rfl | rfl) | rfl <;> decide

theorem isBlank_of_isLineEnd (h : isLineEnd c = true) : isBlank c = true :=
  isBlank_of_isBreak (by simp [isBreak, h])

theorem isBlank_of_eq_space (h : (c == ' ') = true) : isBlank c = true := by
  rw [beq_iff_eq.mp h]
  decide

theorem actsOnBlanks_dropSpacesAfter (blanks : ∀ c, stop c = true → isBlank c = true) :
    ActsOnBlanks (dropSpacesAfter stop false) :=
  actsOnBlanks_of_skipping (· == ' ') stop (fun _ => rfl) (fun _ _ _ => rfl)
    (fun _ => isBlank_of_eq_space) blanks

theorem actsOnBlanks_dropSpacesBefore (blanks : ∀ c, stop c = true → isBlank c = true) :
    ActsOnBlanks (dropSpacesBefore stop) := by
  apply actsOnBlanks_of_dropping (fun c kept => c == ' ' && kept.head?.any stop) rfl
    (fun _ _ => rfl)
  · intro c t dropped
    exact isBlank_of_eq_space (Bool.and_eq_true_iff.mp dropped).1
  · intro c
    rw [List.head?_nil, Option.any_none, Bool.and_false]
  · intro x a c b hc
    cases a with
    | nil =>
      have ink : stop c = false := Bool.eq_false_iff.mpr (mt (blanks c) (by simp [hc]))
      simp [ink]
    | cons y a => rfl

theorem actsOnBlanks_squeeze : ActsOnBlanks squeeze :=
  actsOnBlanks_dropSpacesBefore fun _ => isBlank_of_eq_space

theorem actsOnBlanks_spaced : ActsOnBlanks spaced :=
  actsOnBlanks_squeeze.comp ((actsOnBlanks_dropSpacesBefore fun _ => isBlank_of_isLineEnd).comp
    (actsOnBlanks_dropSpacesAfter fun _ => isBlank_of_isBreak))

theorem actsOnBlanks_unbroken : ActsOnBlanks unbroken where
  append_cons {a b c} hc := by
    have ink : isBreak c = false := Bool.eq_false_iff.mpr (mt isBlank_of_isBreak (by simp [hc]))
    simp [unbroken, ink]
  blanks {t} h := by
    rw [blank_iff] at h ⊢
    intro c hc
    obtain ⟨x, hx, rfl⟩ := List.mem_map.mp hc
    split
    · decide
    · exact h x hx
  eq_nil_iff := List.map_eq_nil_iff

/-! ### What is dropped -/

theorem dropSpacesAfter_sublist (skipping : Bool) (t : Text) :
    (dropSpacesAfter stop skipping t).Sublist t := by
  induction t generalizing skipping with
  | nil => exact List.Sublist.slnil
  | cons x t ih =>
    rw [dropSpacesAfter]
    split
    · exact (ih true).cons x
    · exact (ih (stop x)).cons_cons x

theorem dropSpacesBefore_sublist (t : Text) : (dropSpacesBefore stop t).Sublist t := by
  induction t with
  | nil => exact List.Sublist.slnil
  | cons x t ih =>
    rw [dropSpacesBefore]
    split
    · exact ih.cons x
    · exact ih.cons_cons x

/-- Tidying drops characters, and does nothing else. -/
theorem tidy_sublist (t : Text) : (tidy t).Sublist t :=
  (dropSpacesBefore_sublist _).trans ((dropSpacesBefore_sublist _).trans
    ((dropSpacesAfter_sublist false _).trans (trim_isInfix t).sublist))

/-! ### Where nothing is to be dropped -/

/-- Two characters stand next to each other at the front of a text or behind its first character. -/
theorem pair_infix_cons_iff :
    [b, c] <:+: x :: t ↔ b = x ∧ t.head? = some c ∨ [b, c] <:+: t := by
  rw [List.infix_cons_iff, List.cons_prefix_cons]
  cases t with
  | nil => simp
  | cons y t => simp [eq_comm]

/-- Nothing is dropped from a text without a space after one of the characters. -/
theorem dropSpacesAfter_eq_self (h : ∀ c, stop c = true → ¬ [c, ' '] <:+: t) :
    dropSpacesAfter stop false t = t := by
  -- Skipping makes no difference to a text that does not begin with a space.
  have general : ∀ skipping, (skipping = true → t.head? ≠ some ' ') →
      dropSpacesAfter stop skipping t = t := by
    induction t with
    | nil => exact fun _ _ => rfl
    | cons x t ih =>
      intro skipping first
      have kept : ¬ (skipping && x == ' ') = true := by
        rw [Bool.and_eq_true, beq_iff_eq]
        rintro ⟨yes, rfl⟩
        exact first yes rfl
      have rest : dropSpacesAfter stop (stop x) t = t :=
        ih (fun c hc inside => h c hc (pair_infix_cons_iff.mpr (Or.inr inside))) _
          fun stops next => h x stops (pair_infix_cons_iff.mpr (Or.inl ⟨rfl, next⟩))
      rw [dropSpacesAfter, if_neg kept, rest]
  exact general false nofun

/-- Nothing is dropped from a text without a space before one of the characters. -/
theorem dropSpacesBefore_eq_self (h : ∀ c, stop c = true → ¬ [' ', c] <:+: t) :
    dropSpacesBefore stop t = t := by
  induction t with
  | nil => rfl
  | cons x t ih =>
    have rest := ih fun c hc inside => h c hc (pair_infix_cons_iff.mpr (Or.inr inside))
    rw [dropSpacesBefore, rest]
    refine if_neg fun dropped => ?_
    rw [Bool.and_eq_true, beq_iff_eq, Option.any_eq_true] at dropped
    obtain ⟨rfl, c, next, stops⟩ := dropped
    exact h c stops (pair_infix_cons_iff.mpr (Or.inl ⟨rfl, next⟩))

/-! ### One line -/

theorem isBreak_of_mem_unbroken (h : c ∈ unbroken t) : isBreak c = false := by
  obtain ⟨x, -, rfl⟩ := List.mem_map.mp h
  split
  · decide
  · next kept => simpa using kept

theorem unbroken_eq_self (h : ∀ c ∈ t, isBreak c = false) : unbroken t = t := by
  have same : ∀ c ∈ t, (if isBreak c then ' ' else c) = id c := by
    intro c hc
    simp [h c hc]
  rw [unbroken, List.map_congr_left same, List.map_id]

/-- Without breaks, spacing comes down to squeezing. -/
theorem spaced_eq_squeeze (h : ∀ c ∈ t, isBreak c = false) : spaced t = squeeze t := by
  have absent : ∀ c, isBreak c = true → c ∉ t := by
    intro c breaks member
    simp [h c member] at breaks
  have after : ∀ c, isBreak c = true → ¬ [c, ' '] <:+: t := fun c breaks inside =>
    absent c breaks (inside.subset List.mem_cons_self)
  have before : ∀ c, isLineEnd c = true → ¬ [' ', c] <:+: t := fun c ends inside =>
    absent c (by simp [isBreak, ends]) (inside.subset (by simp))
  rw [spaced, dropSpacesAfter_eq_self after, dropSpacesBefore_eq_self before]

/-- A text on one line is squeezed once spaces stand for its breaks. -/
theorem oneLine_eq (t : Text) : oneLine t = trim (squeeze (unbroken t)) := by
  rw [oneLine_eq_tidy, tidy_eq, actsOnBlanks_squeeze.trim_comm]
  -- No break is left, so of the spacing only the squeezing does anything.
  apply spaced_eq_squeeze
  intro c hc
  exact isBreak_of_mem_unbroken (mem_of_mem_trim hc)

theorem tidy_trim (t : Text) : tidy (trim t) = tidy t := by
  rw [tidy_eq, tidy_eq, trim_trim]

theorem trim_tidy (t : Text) : trim (tidy t) = tidy t := by
  rw [tidy_eq, actsOnBlanks_spaced.trim_comm, trim_trim]

theorem oneLine_trim (t : Text) : oneLine (trim t) = oneLine t := by
  rw [oneLine_eq_tidy, oneLine_eq_tidy, ← actsOnBlanks_unbroken.trim_comm, tidy_trim]

theorem trim_oneLine (t : Text) : trim (oneLine t) = oneLine t := trim_tidy _

theorem tidy_trimEnd (t : Text) : tidy (trimEnd t) = tidy t := by
  rw [← tidy_trim (trimEnd t), trim_trimEnd, tidy_trim]

theorem oneLine_trimEnd (t : Text) : oneLine (trimEnd t) = oneLine t := by
  rw [← oneLine_trim (trimEnd t), trim_trimEnd, oneLine_trim]

theorem isBreak_of_mem_oneLine (h : c ∈ oneLine t) : isBreak c = false := by
  rw [oneLine_eq] at h
  exact isBreak_of_mem_unbroken ((dropSpacesBefore_sublist _).subset (mem_of_mem_trim h))

/-- A line that is tidy by itself needs no spacing. -/
theorem spaced_eq_self (h : oneLine t = t) : spaced t = t := by
  have free : ∀ c ∈ t, isBreak c = false := by
    intro c hc
    rw [← h] at hc
    exact isBreak_of_mem_oneLine hc
  have trimmed : trim t = t := h ▸ trim_oneLine t
  rw [spaced_eq_squeeze free]
  calc squeeze t = squeeze (trim (unbroken t)) := by rw [unbroken_eq_self free, trimmed]
    _ = oneLine t := by rw [oneLine_eq, actsOnBlanks_squeeze.trim_comm]
    _ = t := h

/-! ### Squeezing, one character at a time -/

theorem squeeze_cons_congr (h : squeeze t = squeeze u) : squeeze (c :: t) = squeeze (c :: u) := by
  simp only [squeeze, dropSpacesBefore] at h ⊢
  rw [h]

theorem head?_squeeze_space (t : Text) : (squeeze (' ' :: t)).head? = some ' ' := by
  rw [squeeze, dropSpacesBefore]
  split
  · next next =>
    rw [Bool.and_eq_true, Option.any_eq_true] at next
    obtain ⟨-, d, hd, same⟩ := next
    rw [hd, beq_iff_eq.mp same]
  · rfl

/-- One space more in a run of spaces does not matter. -/
theorem squeeze_space_space (t : Text) : squeeze (' ' :: ' ' :: t) = squeeze (' ' :: t) := by
  -- Whether the second space is kept or dropped, what is kept after the first begins with a space.
  have first := head?_squeeze_space t
  rw [squeeze] at first
  rw [squeeze, dropSpacesBefore, first]
  rfl

end DocMarkdown.Text
