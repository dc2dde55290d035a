import DocMarkdown.Proofs.Text.Spacing
import Mathlib.Tactic.MkIffOfInductiveProp

/-!
# Joining texts

Texts are joined by a separator that stands between each two of them. A text without blanks at its
ends keeps apart what stands before and behind it: no run of blanks belongs to both, so a function
that acts on blanks only may be applied to each by itself.

## Main definitions

* `Text.IsSolid` — a text that neither begins nor ends with a blank, and is not empty
* `Text.IsTidyLine` — a line that has the spacing of a single line already

## Main results

* `intercalate_append` — a joined list is taken apart wherever the list is
* `isSolid_trim` — trimming leaves no blanks at the ends
* `trim_eq_self_iff` — a trimmed text is told by its first and its last character
* `ActsOnBlanks.append_append_of_isSolid` — what stands around such a text is worked on apart
-/

namespace DocMarkdown.Text

/-! ### Joined lists -/

section Lists

variable {α β : Type*} {sep : List α} {xss yss : List (List α)} {x : α}

/-- A joined list is taken apart wherever the list is. -/
theorem intercalate_append (hx : xss ≠ []) (hy : yss ≠ []) :
    sep.intercalate (xss ++ yss) = sep.intercalate xss ++ sep ++ sep.intercalate yss := by
  induction xss with
  | nil => exact absurd rfl hx
  | cons xs xss ih =>
    cases xss with
    | nil =>
      rw [List.singleton_append, List.intercalate_cons_of_ne_nil hy, List.intercalate_singleton]
    | cons xs' xss =>
      have rest := ih (List.cons_ne_nil xs' xss)
      rw [List.cons_append] at rest
      rw [List.cons_append, List.cons_append, List.intercalate_cons_cons, rest,
        List.intercalate_cons_cons]
      simp only [List.append_assoc]

/-- Behind the first list, the separator stands before each. -/
theorem intercalate_cons (xs : List α) (xss : List (List α)) :
    sep.intercalate (xs :: xss) = xs ++ xss.flatMap (sep ++ ·) := by
  induction xss generalizing xs with
  | nil => simp
  | cons xs' xss ih => rw [List.intercalate_cons_cons, ih, List.flatMap_cons, List.append_assoc,
      List.append_assoc]

theorem intercalate_ne_nil (nonempty : xss ≠ []) (inhabited : [] ∉ xss) :
    sep.intercalate xss ≠ [] := by
  obtain ⟨xs, others, rfl⟩ := List.exists_cons_of_ne_nil nonempty
  have first : xs ≠ [] := fun h => inhabited (h ▸ List.mem_cons_self)
  cases others with
  | nil => rwa [List.intercalate_singleton]
  | cons xs' others => simp [List.intercalate_cons_cons, first]

theorem mem_or_mem_of_mem_intercalate (h : x ∈ sep.intercalate xss) :
    x ∈ sep ∨ ∃ xs ∈ xss, x ∈ xs := by
  induction xss with
  | nil => cases h
  | cons xs xss ih =>
    cases xss with
    | nil => exact Or.inr ⟨xs, List.mem_cons_self, by rwa [List.intercalate_singleton] at h⟩
    | cons xs' xss =>
      rw [List.intercalate_cons_cons, List.mem_append, List.mem_append] at h
      rcases h with (h | h) | h
      · exact Or.inr ⟨xs, List.mem_cons_self, h⟩
      · exact Or.inl h
      · rcases ih h with h | ⟨ys, member, h⟩
        · exact Or.inl h
        · exact Or.inr ⟨ys, List.mem_cons_of_mem _ member, h⟩

theorem map_intercalate (f : α → β) (sep : List α) (xss : List (List α)) :
    (sep.intercalate xss).map f = (sep.map f).intercalate (xss.map (·.map f)) := by
  induction xss with
  | nil => rfl
  | cons xs xss ih =>
    cases xss with
    | nil => simp
    | cons xs' xss =>
      rw [List.intercalate_cons_cons, List.map_append, List.map_append, ih]
      simp only [List.map_cons, List.intercalate_cons_cons]

end Lists

/-! ### Texts without blanks at their ends -/

variable {a t : Text}

/-- A text that neither begins nor ends with a blank, and is not empty. -/
structure IsSolid (t : Text) : Prop where
  begins : ∃ c u, isBlank c = false ∧ t = c :: u
  ends : ∃ u c, isBlank c = false ∧ t = u ++ [c]

theorem IsSolid.ne_nil (h : IsSolid t) : t ≠ [] := by
  obtain ⟨c, u, -, rfl⟩ := h.begins
  exact List.cons_ne_nil c u

theorem IsSolid.visible (h : IsSolid t) : blank t = false := by
  obtain ⟨c, u, first, rfl⟩ := h.begins
  rw [blank_cons, first, Bool.false_and]

theorem IsSolid.trim_eq_self (h : IsSolid t) : trim t = t := by
  obtain ⟨c, u, first, same⟩ := h.begins
  obtain ⟨v, d, last, same'⟩ := h.ends
  have begins : trimStart t = t := by rw [same, trimStart_cons_of_not_blank first]
  rw [trim, begins, same']
  exact trimEnd_append_cons last blank_nil

/-- Behind a text without blanks at its ends, only the end is trimmed. -/
theorem IsSolid.trimEnd_append (h : IsSolid t) (a b : Text) :
    trimEnd (a ++ (t ++ b)) = a ++ (t ++ trimEnd b) := by
  obtain ⟨u, c, last, rfl⟩ := h.ends
  have whole (v : Text) : a ++ (u ++ [c] ++ v) = (a ++ u) ++ c :: v := by simp
  rw [whole, whole, trimEnd_append_cons_append last]

/-- On the two sides of a text without blanks at its ends, only the other ends are trimmed. -/
theorem IsSolid.trim_append_append (h : IsSolid t) (a b : Text) :
    trim (a ++ (t ++ b)) = trimStart a ++ (t ++ trimEnd b) := by
  obtain ⟨c, u, first, same⟩ := h.begins
  have begins (v : Text) : trimStart (t ++ v) = t ++ v := by
    rw [same, List.cons_append, trimStart_cons_of_not_blank first]
  rcases blank_or_eq_append a with blank | ⟨v, d, w, blank, ink, rfl⟩
  · rw [trim, trimStart_append_of_blank blank, trimStart_of_blank blank, begins]
    exact h.trimEnd_append [] b
  · have whole : v ++ d :: w ++ (t ++ b) = v ++ (d :: w ++ (t ++ b)) := by simp
    rw [whole, trim, trimStart_append_of_blank blank, trimStart_append_of_blank blank,
      List.cons_append, trimStart_cons_of_not_blank ink, trimStart_cons_of_not_blank ink,
      ← List.cons_append, h.trimEnd_append]

theorem IsSolid.trim_append (h : IsSolid a) (b : Text) : trim (a ++ b) = a ++ trimEnd b :=
  h.trim_append_append [] b

/-- Trimming leaves no blanks at the ends. -/
theorem isSolid_trim (h : blank t = false) : IsSolid (trim t) := by
  rcases blank_or_eq_append t with all | ⟨a, c, u, ha, first, rfl⟩
  · simp [all] at h
  · rw [trim_blank_append ha, trim, trimStart_cons_of_not_blank first]
    rcases blank_or_eq_append_blank u with hu | ⟨v, d, w, last, hw, rfl⟩
    · have only : trimEnd (c :: u) = [c] := trimEnd_append_cons (a := []) first hu
      rw [only]
      exact ⟨⟨c, [], first, rfl⟩, ⟨[], c, first, rfl⟩⟩
    · rw [← List.cons_append, trimEnd_append_cons last hw]
      exact ⟨⟨c, v ++ [d], first, rfl⟩, ⟨c :: v, d, last, rfl⟩⟩

theorem isSolid_of_trim_eq_self (nonempty : t ≠ []) (h : trim t = t) : IsSolid t := by
  rw [← h]
  apply isSolid_trim
  rw [Bool.eq_false_iff]
  intro all
  exact nonempty (h.symm.trans (trim_of_blank all))

/-- Trimming leaves a text as it is if neither its first nor its last character is blank. -/
theorem trim_eq_self_iff :
    trim t = t ↔
      (∀ c ∈ t.head?, isBlank c = false) ∧ ∀ c ∈ t.getLast?, isBlank c = false := by
  by_cases empty : t = []
  · subst empty
    exact iff_of_true rfl ⟨nofun, nofun⟩
  · constructor
    · intro trimmed
      obtain ⟨⟨c, u, first, begins⟩, ⟨v, d, last, ends⟩⟩ := isSolid_of_trim_eq_self empty trimmed
      constructor
      · rw [begins]
        rintro _ ⟨⟩
        exact first
      · rw [ends, List.getLast?_concat]
        rintro _ ⟨⟩
        exact last
    · rintro ⟨first, last⟩
      obtain ⟨c, u, begins⟩ := List.exists_cons_of_ne_nil empty
      have ends := List.dropLast_concat_getLast empty
      exact IsSolid.trim_eq_self
        ⟨⟨c, u, first c (by rw [begins]; rfl), begins⟩,
          ⟨t.dropLast, t.getLast empty, last _ (List.getLast?_eq_some_getLast empty), ends.symm⟩⟩

theorem isSolid_of_visible (nonempty : t ≠ []) (visible : ∀ c ∈ t, isBlank c = false) :
    IsSolid t := by
  refine isSolid_of_trim_eq_self nonempty (trim_eq_self_iff.mpr ⟨fun c hc => ?_, fun c hc => ?_⟩)
  · exact visible c (List.mem_of_mem_head? hc)
  · exact visible c (List.mem_of_mem_getLast? hc)

namespace ActsOnBlanks

variable {f : Text → Text}

theorem append_of_isSolid_left (acts : ActsOnBlanks f) (ha : IsSolid a) (b : Text) :
    f (a ++ b) = f a ++ f b := by
  obtain ⟨u, c, ink, rfl⟩ := ha.ends
  rw [List.append_assoc, List.singleton_append, acts.append_cons ink, acts.append_cons ink,
    acts.nil, List.append_assoc, List.singleton_append]

/-- A text without blanks at its ends is worked on apart from what stands on its two sides. -/
theorem append_append_of_isSolid (acts : ActsOnBlanks f) (ht : IsSolid t) (a b : Text) :
    f (a ++ (t ++ b)) = f a ++ (f t ++ f b) := by
  rw [← acts.append_of_isSolid_left ht]
  obtain ⟨c, u, ink, rfl⟩ := ht.begins
  rw [List.cons_append, acts.append_cons ink, acts.cons ink]

end ActsOnBlanks

/-! ### Tidy lines -/

/-- A line that holds something and has the spacing of a single line already. -/
@[mk_iff]
structure IsTidyLine (l : Text) : Prop where
  ne_nil : l ≠ []
  oneLine_eq_self : oneLine l = l

instance : DecidablePred IsTidyLine := fun l => decidable_of_iff _ (isTidyLine_iff l).symm

namespace IsTidyLine

variable {l : Text}

theorem isBreak_eq_false (h : IsTidyLine l) : ∀ c ∈ l, isBreak c = false :=
  fun _ hc => isBreak_of_mem_oneLine (h.oneLine_eq_self.symm ▸ hc)

theorem feed_not_mem (h : IsTidyLine l) : '\n' ∉ l :=
  fun inside => absurd (h.isBreak_eq_false _ inside) (by decide)

theorem isSolid (h : IsTidyLine l) : IsSolid l := by
  refine isSolid_of_trim_eq_self h.ne_nil ?_
  rw [← h.oneLine_eq_self, trim_oneLine]

theorem spaced_eq_self (h : IsTidyLine l) : spaced l = l := Text.spaced_eq_self h.oneLine_eq_self

theorem tidy_eq_self (h : IsTidyLine l) : tidy l = l := by
  rw [tidy_eq, h.isSolid.trim_eq_self, h.spaced_eq_self]

end IsTidyLine

end DocMarkdown.Text
