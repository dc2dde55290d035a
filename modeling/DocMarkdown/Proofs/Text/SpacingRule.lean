import DocMarkdown.Proofs.Text.Stretches
import DocMarkdown.Proofs.Text.Tidiness

/-!
# Tidy spacing as a single rule

Tidying goes over a text three times, with other characters to stop at each time. All three passes
leave alone what is no space, and what becomes of a run of spaces depends on the two characters next
to it and on nothing else. So the passes together follow one rule, by which a text can be respaced
run by run, from front to back.

## Main definitions

* `Text.respaceStretch` — the rule: what is left of a stretch between two characters
* `Text.respaced` — a text with every run of spaces treated by the rule
* `Text.spacedFrom` — the three passes over what follows a given character

## Main results

* `spacedFrom_run`, `spacedFrom_other` — the three passes over one stretch
* `spacedFrom_eq` — the three passes follow the rule
* `tidy_eq_respaced` — tidying is trimming and the rule, and a text that obeys the rule stays
-/

namespace DocMarkdown.Text

variable {stop : Char → Bool} {skipping : Bool} {t u : Text}

/-! ### The rule -/

/-- What is left of a stretch of a text between two characters: of a run of spaces nothing behind a
break or before a line end, and one space elsewhere; of any other stretch all. -/
def respaceStretch (before after : Option Char) (u : Text) : Text :=
  if u.all (· == ' ') then
    if before.any isBreak || after.any isLineEnd then [] else [' ']
  else u

/-- Stretches that follow a character, or nothing, each treated by the rule. -/
def respaceStretches (before : Option Char) : List Text → Text
  | [] => []
  | u :: others =>
    respaceStretch before others.flatten.head? u ++ respaceStretches u.getLast? others

/-- A text with every maximal run of spaces treated by the rule. -/
def respaced (t : Text) : Text := respaceStretches none (stretches (· == ' ') t)

-- A run goes if it stands behind a tab, but not if it stands before one.
example : respaced "a  \t  b  \r\n  c  d".toList = "a \tb\r\nc d".toList := by decide

/-! ### Spaces dropped after characters -/

/-- Behind other characters, it is the last of them that decides whether spaces are skipped. -/
theorem dropSpacesAfter_append (solid : ∀ c ∈ u, (c == ' ') = false) :
    dropSpacesAfter stop skipping (u ++ t) =
      u ++ dropSpacesAfter stop (u.getLast?.elim skipping stop) t := by
  induction u generalizing skipping with
  | nil => rfl
  | cons c u ih =>
    rw [List.forall_mem_cons] at solid
    rw [List.cons_append, dropSpacesAfter, solid.1, Bool.and_false, if_neg Bool.false_ne_true,
      ih solid.2, List.getLast?_cons, List.cons_append]
    cases u.getLast? <;> rfl

theorem head?_dropSpacesAfter (t : Text) : (dropSpacesAfter stop false t).head? = t.head? := by
  cases t with
  | nil => rfl
  | cons c t => simp [dropSpacesAfter]

/-- Whether spaces are skipped does not matter where none comes next. -/
theorem dropSpacesAfter_true (stops : ∀ c ∈ t.head?, (c == ' ') = false) :
    dropSpacesAfter stop true t = dropSpacesAfter stop false t := by
  cases t with
  | nil => rfl
  | cons c t => simp [dropSpacesAfter, stops c rfl]

/-- A run of spaces is dropped as a whole, or kept as a whole. -/
theorem dropSpacesAfter_run (unstopped : stop ' ' = false) (run : ∀ c ∈ u, (c == ' ') = true)
    (stops : ∀ c ∈ t.head?, (c == ' ') = false) :
    dropSpacesAfter stop skipping (u ++ t) =
      (if skipping then [] else u) ++ dropSpacesAfter stop false t := by
  induction u with
  | nil =>
    cases skipping with
    | true => exact dropSpacesAfter_true stops
    | false => rfl
  | cons c u ih =>
    rw [List.forall_mem_cons, beq_iff_eq] at run
    obtain ⟨rfl, run⟩ := run
    rw [List.cons_append, dropSpacesAfter]
    cases skipping with
    | true => exact ih run
    | false => simpa [unstopped] using ih run

/-! ### Spaces dropped before characters -/

theorem dropSpacesBefore_append (solid : ∀ c ∈ u, (c == ' ') = false) :
    dropSpacesBefore stop (u ++ t) = u ++ dropSpacesBefore stop t := by
  induction u with
  | nil => rfl
  | cons c u ih =>
    rw [List.forall_mem_cons] at solid
    simp [dropSpacesBefore, solid.1, ih solid.2]

/-- A text that does not begin with a space begins as it did. -/
theorem head?_dropSpacesBefore (stops : ∀ c ∈ t.head?, (c == ' ') = false) :
    (dropSpacesBefore stop t).head? = t.head? := by
  cases t with
  | nil => rfl
  | cons c t => simp [dropSpacesBefore, stops c rfl]

/-- A run of spaces is dropped as a whole before characters other than spaces, and otherwise kept as
a whole. -/
theorem dropSpacesBefore_run (unstopped : stop ' ' = false) (run : ∀ c ∈ u, (c == ' ') = true)
    (stops : ∀ c ∈ t.head?, (c == ' ') = false) :
    dropSpacesBefore stop (u ++ t) =
      (if t.head?.any stop then [] else u) ++ dropSpacesBefore stop t := by
  induction u with
  | nil => simp
  | cons c u ih =>
    rw [List.forall_mem_cons, beq_iff_eq] at run
    obtain ⟨rfl, run⟩ := run
    rw [List.cons_append, dropSpacesBefore, ih run]
    by_cases dropped : t.head?.any stop = true
    · simp [dropped, head?_dropSpacesBefore stops]
    · -- The next character is the next space of the run, or the one behind it.
      have next : (u ++ dropSpacesBefore stop t).head?.any stop = false := by
        cases u with
        | nil => simpa [head?_dropSpacesBefore stops] using dropped
        | cons d u =>
          obtain rfl := beq_iff_eq.mp (run d List.mem_cons_self)
          exact unstopped
      rw [if_neg dropped, if_neg dropped, next]
      rfl

/-- A run of spaces becomes a single space. -/
theorem squeeze_run (nonempty : u ≠ []) (run : ∀ c ∈ u, (c == ' ') = true)
    (stops : ∀ c ∈ t.head?, (c == ' ') = false) : squeeze (u ++ t) = ' ' :: squeeze t := by
  induction u with
  | nil => exact absurd rfl nonempty
  | cons c u ih =>
    rw [List.forall_mem_cons, beq_iff_eq] at run
    obtain ⟨rfl, run⟩ := run
    cases u with
    | nil =>
      have next : (dropSpacesBefore (· == ' ') t).head?.any (· == ' ') = false := by
        rw [head?_dropSpacesBefore stops, Option.any_eq_false]
        exact stops
      simp [squeeze, dropSpacesBefore, next]
    | cons d u =>
      obtain rfl := beq_iff_eq.mp (run d List.mem_cons_self)
      rw [← ih (List.cons_ne_nil _ _) run]
      exact squeeze_space_space (u ++ t)

/-! ### The three passes together -/

/-- The three passes over a text that follows a break, or another character. -/
def spacedFrom (skipping : Bool) (t : Text) : Text :=
  squeeze (dropSpacesBefore isLineEnd (dropSpacesAfter isBreak skipping t))

/-- The passes leave nothing or one space of a run of spaces. -/
theorem spacedFrom_run (h : IsStretch (· == ' ') true u t) :
    spacedFrom skipping (u ++ t) =
      (if skipping || t.head?.any isLineEnd then [] else [' ']) ++ spacedFrom false t := by
  rw [spacedFrom, dropSpacesAfter_run rfl h.uniform h.stops]
  cases skipping with
  | true => rfl
  | false =>
    -- What comes behind the run comes behind it after every pass.
    have stops : ∀ c ∈ (dropSpacesAfter isBreak false t).head?, (c == ' ') = false := by
      rw [head?_dropSpacesAfter]
      exact h.stops
    rw [if_neg Bool.false_ne_true, dropSpacesBefore_run rfl h.uniform stops,
      head?_dropSpacesAfter, Bool.false_or]
    split
    · rfl
    · rw [squeeze_run h.ne_nil h.uniform]
      · rfl
      · rw [head?_dropSpacesBefore stops]
        exact stops

/-- The passes leave all of any other stretch. -/
theorem spacedFrom_other (h : IsStretch (· == ' ') false u t) :
    spacedFrom skipping (u ++ t) = u ++ spacedFrom (u.getLast?.any isBreak) t := by
  have last : u.getLast?.elim skipping isBreak = u.getLast?.any isBreak := by
    rw [List.getLast?_eq_some_getLast h.ne_nil]
    rfl
  rw [spacedFrom, dropSpacesAfter_append h.uniform, last, dropSpacesBefore_append h.uniform,
    squeeze, dropSpacesBefore_append h.uniform]
  rfl

/-- The passes follow the rule, whatever character the text stands behind. -/
theorem spacedFrom_eq (before : Option Char) (t : Text) :
    spacedFrom (before.any isBreak) t = respaceStretches before (stretches (· == ' ') t) := by
  -- Stretch by stretch, with the character before it as it comes.
  induction t using stretch_induction (· == ' ') generalizing before with
  | nil => rfl
  | run u t h ih =>
    -- A run of spaces ends with a space, which is no break.
    have last : u.getLast?.any isBreak = false := by
      rw [Option.any_eq_false]
      intro c hc
      obtain rfl := beq_iff_eq.mp (h.uniform c (List.mem_of_mem_getLast? hc))
      rfl
    rw [h.stretches_eq, respaceStretches, flatten_stretches, respaceStretch, if_pos h.all_eq,
      spacedFrom_run h, ← ih, last]
  | other u t h ih =>
    rw [h.stretches_eq, respaceStretches, respaceStretch, if_neg (by simp [h.all_eq]),
      spacedFrom_other h, ← ih]

theorem spaced_eq_respaced (t : Text) : spaced t = respaced t := spacedFrom_eq none t

/-! ### What is no space stays -/

theorem filter_dropSpacesAfter (keep : Char → Bool) (space : keep ' ' = false) (skipping : Bool)
    (t : Text) : (dropSpacesAfter stop skipping t).filter keep = t.filter keep := by
  induction t generalizing skipping with
  | nil => rfl
  | cons c t ih =>
    rw [dropSpacesAfter]
    split
    · next dropped =>
      obtain ⟨-, rfl⟩ : skipping = true ∧ c = ' ' := by simpa using dropped
      rw [ih, List.filter_cons_of_neg (by simp [space])]
    · rw [List.filter_cons, List.filter_cons, ih]

theorem filter_dropSpacesBefore (keep : Char → Bool) (space : keep ' ' = false) (t : Text) :
    (dropSpacesBefore stop t).filter keep = t.filter keep := by
  induction t with
  | nil => rfl
  | cons c t ih =>
    rw [dropSpacesBefore]
    split
    · next dropped =>
      rw [Bool.and_eq_true, beq_iff_eq] at dropped
      rw [ih, dropped.1, List.filter_cons_of_neg (by simp [space])]
    · rw [List.filter_cons, List.filter_cons, ih]

theorem filter_tidy (keep : Char → Bool) (space : keep ' ' = false) (t : Text) :
    (tidy t).filter keep = (trim t).filter keep := by
  rw [tidy, filter_dropSpacesBefore keep space, filter_dropSpacesBefore keep space,
    filter_dropSpacesAfter keep space]

/-- Tidying a text is trimming it and treating each of its maximal runs of spaces by one rule: a run
is deleted behind a line feed, carriage return or tab and before a line feed or carriage return, and
is a single space elsewhere. All characters but spaces stay, in order. What is tidied is tidy, so
tidying it again changes nothing; and a text is left as it is if and only if it is tidy: trimmed,
without two spaces in a row, and without a space after a break or before a line end. -/
theorem tidy_eq_respaced (s : Text) :
    tidy s = respaced (trim s) ∧
      (tidy s).filter (· ≠ ' ') = (trim s).filter (· ≠ ' ') ∧
      tidy (tidy s) = tidy s ∧ (tidy s = s ↔ IsTidy s) :=
  ⟨spaced_eq_respaced (trim s), filter_tidy _ (by decide) s, isTidy_iff.mp (isTidy_tidy s),
    isTidy_iff.symm⟩

end DocMarkdown.Text
