import DocMarkdown.Text.Cut
import Mathlib.Data.List.Basic

/-!
# The lines of a text

Splitting a text into pieces is splitting a list at an element, so that what is known of lists says
how the lines of a text come about from the lines of its parts.

## Main results

* `pieces_eq_splitOn` — pieces are what a list is split into
* `lines_append_cons` — the lines on the two sides of a line feed
* `lines_append_of_not_mem`, `lines_append_flatMap` — the lines of joined texts
* `lines_flatMap_append`, `lines_unlines` — lines that are put together are found again
-/

namespace DocMarkdown.Text

variable {a b l t : Text} {ls : List Text} {c separator : Char}

theorem pieces_eq_splitOn (separator : Char) (t : Text) :
    pieces separator t = t.splitOn separator := by
  induction t with
  | nil => rfl
  | cons c t ih =>
    rw [pieces, ih, List.splitOn_cons_eq_if_modifyHead]
    simp only [beq_iff_eq]

theorem lines_eq_splitOn (t : Text) : lines t = t.splitOn '\n' := pieces_eq_splitOn '\n' t

theorem lines_ne_nil (t : Text) : lines t ≠ [] := pieces_ne_nil '\n' t

/-- A text without a line feed is one line. -/
theorem lines_of_not_mem (h : '\n' ∉ t) : lines t = [t] := by
  rw [lines_eq_splitOn, List.splitOn_eq_singleton h]

/-- The lines on the two sides of a line feed. -/
theorem lines_append_cons (a b : Text) : lines (a ++ '\n' :: b) = lines a ++ lines b := by
  rw [lines_eq_splitOn, lines_eq_splitOn, lines_eq_splitOn, List.splitOn_append_cons_self]

theorem lines_cons_feed (t : Text) : lines ('\n' :: t) = [] :: lines t := lines_append_cons [] t

theorem lines_cons (hc : c ≠ '\n') (h : lines t = l :: ls) : lines (c :: t) = (c :: l) :: ls := by
  rw [lines] at h ⊢
  rw [pieces, if_neg hc, h, List.modifyHead_cons]

/-- A text without a line feed goes with the first line of what follows it. -/
theorem lines_append_of_not_mem (ha : '\n' ∉ a) (h : lines t = l :: ls) :
    lines (a ++ t) = (a ++ l) :: ls := by
  induction a with
  | nil => exact h
  | cons c a ih =>
    rw [List.mem_cons, not_or] at ha
    exact lines_cons (Ne.symm ha.1) (ih ha.2)

/-- The lines of texts that each start on a new line, behind those of the text before them. -/
theorem lines_append_flatMap {α : Type*} (f : α → Text) (xs : List α) (a : Text) :
    lines (a ++ xs.flatMap fun x => '\n' :: f x) = lines a ++ xs.flatMap fun x => lines (f x) := by
  induction xs generalizing a with
  | nil => simp
  | cons x xs ih =>
    rw [List.flatMap_cons, List.cons_append, lines_append_cons, ih, List.flatMap_cons]

/-- The separator stands in none of the pieces. -/
theorem not_mem_of_mem_pieces (h : l ∈ pieces separator t) : separator ∉ l := by
  induction t generalizing l with
  | nil => simp_all [pieces]
  | cons c t ih =>
    obtain ⟨first, others, same⟩ := List.exists_cons_of_ne_nil (pieces_ne_nil separator t)
    rw [pieces] at h
    rw [same] at h ih
    split at h
    · rcases List.mem_cons.mp h with rfl | h
      · exact List.not_mem_nil
      · exact ih h
    · next other =>
      rcases List.mem_cons.mp h with rfl | h
      · exact List.not_mem_cons_of_ne_of_not_mem (Ne.symm other) (ih List.mem_cons_self)
      · exact ih (List.mem_cons_of_mem _ h)

theorem not_mem_of_mem_lines (h : l ∈ lines t) : '\n' ∉ l := not_mem_of_mem_pieces h

/-- Lines with a line feed at the end of each are found again, before those of what follows. -/
theorem lines_flatMap_append (free : ∀ l ∈ ls, '\n' ∉ l) (t : Text) :
    lines (ls.flatMap (· ++ ['\n']) ++ t) = ls ++ lines t := by
  induction ls with
  | nil => rfl
  | cons l ls ih =>
    rw [List.flatMap_cons, List.append_assoc, List.append_assoc, List.singleton_append,
      lines_append_cons, lines_of_not_mem (free l List.mem_cons_self),
      ih fun u hu => free u (List.mem_cons_of_mem l hu)]
    rfl

/-- Joined lines are found again. -/
theorem lines_unlines (nonempty : ls ≠ []) (free : ∀ l ∈ ls, '\n' ∉ l) :
    lines (unlines ls) = ls := by
  rw [lines_eq_splitOn]
  exact List.splitOn_intercalate '\n' free nonempty

end DocMarkdown.Text
