import DocMarkdown.Proofs.Text.Marks

/-!
# Empty lines

Vertical space is made of empty lines. A text is compact if it has no two of them in a row and does
not end with a line feed. As compact texts may begin with line feeds but not end with them, they can
be joined.

## Main definitions

* `Text.emptyLines` — what two empty lines in a row are made of
* `Text.IsCompact` — no two empty lines in a row, and no line feed at the end

## Main results

* `emptyLines_infix_append_cons_iff` — empty lines in a row do not reach across a character
* `IsCompact.append`, `IsCompact.flatMap` — joined compact texts are compact
* `IsCompact.append_cons` — a compact text behind any text without two empty lines in a row
-/

namespace DocMarkdown.Text

variable {a b t : Text} {c : Char}

/-- What two empty lines in a row are made of. -/
def emptyLines : Text := ['\n', '\n', '\n']

/-- A text with no two empty lines in a row, and without a line feed at its end. -/
structure IsCompact (t : Text) : Prop where
  sparse : ¬ emptyLines <:+: t
  getLast?_ne_feed : t.getLast? ≠ some '\n'

/-- Empty lines in a row do not reach across another character. -/
theorem emptyLines_infix_append_cons_iff (hc : c ≠ '\n') :
    emptyLines <:+: a ++ c :: b ↔ emptyLines <:+: a ∨ emptyLines <:+: b :=
  infix_append_cons_iff (by simp [emptyLines, hc])

/-- A text on one line adds no empty lines to what follows it. -/
theorem emptyLines_infix_append_iff (ha : '\n' ∉ a) :
    emptyLines <:+: a ++ b ↔ emptyLines <:+: b := by
  induction a with
  | nil => rfl
  | cons c a ih =>
    rw [List.mem_cons, not_or] at ha
    have front : emptyLines <:+: [] ++ c :: (a ++ b) ↔ _ :=
      emptyLines_infix_append_cons_iff (Ne.symm ha.1)
    have none : ¬ emptyLines <:+: [] := by decide
    rw [List.cons_append, ← ih ha.2, ← List.nil_append (c :: (a ++ b)), front]
    exact or_iff_right none

namespace IsCompact

theorem nil : IsCompact [] := ⟨by decide, by decide⟩

theorem of_not_mem (h : '\n' ∉ t) : IsCompact t where
  sparse inside := h (inside.subset (by decide))
  getLast?_ne_feed last := h (List.mem_of_getLast? last)

/-- A compact text that does not begin with a line feed may stand behind any text without two empty
lines in a row. -/
theorem append_cons (ha : ¬ emptyLines <:+: a) (hc : c ≠ '\n') (h : IsCompact (c :: t)) :
    IsCompact (a ++ c :: t) where
  sparse inside := by
    rcases (emptyLines_infix_append_cons_iff hc).mp inside with inside | inside
    · exact ha inside
    · exact h.sparse (inside.trans (List.suffix_cons c t).isInfix)
  getLast?_ne_feed := by
    rw [List.getLast?_append_of_ne_nil a (List.cons_ne_nil c t)]
    exact h.getLast?_ne_feed

theorem cons (hc : c ≠ '\n') (h : IsCompact t) : IsCompact (c :: t) where
  sparse inside := by
    have : emptyLines <:+: [] ++ c :: t := inside
    rcases (emptyLines_infix_append_cons_iff hc).mp this with inside | inside
    · exact absurd inside (by decide)
    · exact h.sparse inside
  getLast?_ne_feed := by
    cases t with
    | nil => simpa using hc
    | cons d t =>
      rw [List.getLast?_cons_cons]
      exact h.getLast?_ne_feed

/-- Joined compact texts are compact. -/
theorem append (ha : IsCompact a) (hb : IsCompact b) : IsCompact (a ++ b) := by
  rcases List.eq_nil_or_concat a with rfl | ⟨front, c, rfl⟩
  · exact hb
  · -- The last character of the first text keeps the empty lines of the two apart.
    rw [List.concat_eq_append] at ha ⊢
    have hc : c ≠ '\n' := by simpa using ha.getLast?_ne_feed
    have sparse : ¬ emptyLines <:+: front := fun inside =>
      ha.sparse (inside.trans (List.prefix_append front [c]).isInfix)
    rw [List.append_assoc, List.singleton_append]
    exact append_cons sparse hc (cons hc hb)

theorem flatMap {α : Type*} {f : α → Text} {xs : List α} (h : ∀ x ∈ xs, IsCompact (f x)) :
    IsCompact (xs.flatMap f) := by
  induction xs with
  | nil => exact nil
  | cons x xs ih =>
    rw [List.flatMap_cons]
    exact (h x List.mem_cons_self).append (ih fun y hy => h y (List.mem_cons_of_mem x hy))

end IsCompact

end DocMarkdown.Text
