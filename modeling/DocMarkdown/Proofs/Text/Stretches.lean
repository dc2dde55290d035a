import DocMarkdown.Text.Blank
import Mathlib.Data.List.SplitBy
import Mathlib.Data.List.TakeWhile

/-!
# Stretches of a text

A class of characters takes a text apart into stretches: in each, either all characters are in the
class or none is, and none of them can be made longer. Those in the class are its runs. What is done
to a text run by run can be told by going through its stretches from front to back.

## Main definitions

* `Text.stretches` — a text as its longest stretches of characters of one kind
* `Text.runs` — the stretches in a class
* `Text.between` — the stretches outside it
* `Text.IsStretch` — a stretch at the front of a text, and what follows it

## Main results

* `IsStretch.stretches_eq` — a text has its first stretch before those of the rest
* `stretch_induction` — what holds of the empty text and is kept by each stretch put in front
* `runs_append_of_outside` — what stands before a run has no part in it
-/

namespace DocMarkdown.Text

variable {p : Char → Bool} {inside : Bool} {t u : Text}

/-- A text as its longest stretches of characters that are all in a class or all outside it. -/
def stretches (p : Char → Bool) (t : Text) : List Text := t.splitBy fun b c => p b == p c

/-- The maximal runs of characters in a class, in order. -/
def runs (p : Char → Bool) (t : Text) : List Text := (stretches p t).filter (·.all p)

/-- The stretches before, between and behind the runs, in order. -/
def between (p : Char → Bool) (t : Text) : List Text := (stretches p t).filter (!·.all p)

/-- A stretch at the front of a text, in a class or outside it, and what follows it. -/
structure IsStretch (p : Char → Bool) (inside : Bool) (u t : Text) : Prop where
  ne_nil : u ≠ []
  uniform : ∀ c ∈ u, p c = inside
  stops : ∀ c ∈ t.head?, p c = !inside

@[simp] theorem runs_nil : runs p [] = [] := rfl

@[simp] theorem between_nil : between p [] = [] := rfl

/-- The stretches of a text make it up. -/
@[simp] theorem flatten_stretches (p : Char → Bool) (t : Text) : (stretches p t).flatten = t :=
  List.flatten_splitBy _ t

/-- Where there is nothing between the runs, they make up the text. -/
theorem all_of_between_eq_nil (h : between p t = []) : ∀ c ∈ t, p c = true := by
  rw [between, List.filter_eq_nil_iff] at h
  intro c hc
  rw [← flatten_stretches p t, List.mem_flatten] at hc
  obtain ⟨u, member, inside⟩ := hc
  have all : u.all p = true := by simpa using h u member
  exact List.all_eq_true.mp all c inside

namespace IsStretch

/-- A text begins with a character of the kind of its first stretch. -/
theorem any_head? (h : IsStretch p inside u t) : (u ++ t).head?.any p = inside := by
  obtain ⟨c, rest, rfl⟩ := List.exists_cons_of_ne_nil h.ne_nil
  exact h.uniform c List.mem_cons_self

/-- Behind a stretch, a text goes on with a character of the other kind, if it goes on. -/
theorem any_head?_rest (h : IsStretch p inside u t) (nonempty : t ≠ []) :
    t.head?.any p = !inside := by
  obtain ⟨c, rest, rfl⟩ := List.exists_cons_of_ne_nil nonempty
  exact h.stops c rfl

/-- A text has its first stretch before those of the rest. -/
theorem stretches_eq (h : IsStretch p inside u t) :
    stretches p (u ++ t) = u :: stretches p t := by
  have apart : ∀ b ∈ u.getLast?, ∀ c ∈ t.head?, (p b == p c) = false := by
    intro b hb c hc
    rw [h.uniform b (List.mem_of_mem_getLast? hb), h.stops c hc]
    cases inside <;> rfl
  have whole : u.splitBy (fun b c => p b == p c) = [u] := by
    refine List.splitBy_of_isChain h.ne_nil (List.Pairwise.isChain ?_)
    refine List.pairwise_of_forall_mem_list fun b hb c hc => ?_
    rw [h.uniform b hb, h.uniform c hc, beq_self_eq_true]
  rw [stretches, List.splitBy_append apart, whole]
  rfl

theorem all_eq (h : IsStretch p inside u t) : u.all p = inside := by
  obtain ⟨c, rest, rfl⟩ := List.exists_cons_of_ne_nil h.ne_nil
  cases inside with
  | true => exact List.all_eq_true.mpr h.uniform
  | false => rw [List.all_cons, h.uniform c List.mem_cons_self, Bool.false_and]

theorem runs_eq (h : IsStretch p true u t) : runs p (u ++ t) = u :: runs p t := by
  simp [runs, h.stretches_eq, h.all_eq]

theorem runs_eq_of_outside (h : IsStretch p false u t) : runs p (u ++ t) = runs p t := by
  simp [runs, h.stretches_eq, h.all_eq]

theorem between_eq (h : IsStretch p true u t) : between p (u ++ t) = between p t := by
  simp [between, h.stretches_eq, h.all_eq]

theorem between_eq_of_outside (h : IsStretch p false u t) :
    between p (u ++ t) = u :: between p t := by
  simp [between, h.stretches_eq, h.all_eq]

end IsStretch

/-- A text that is not empty begins with a stretch. -/
theorem exists_isStretch (p : Char → Bool) (nonempty : t ≠ []) :
    ∃ inside u rest, IsStretch p inside u rest ∧ t = u ++ rest := by
  obtain ⟨c, t, rfl⟩ := List.exists_cons_of_ne_nil nonempty
  refine ⟨p c, (c :: t).takeWhile (p · == p c), (c :: t).dropWhile (p · == p c), ⟨?_, ?_, ?_⟩,
    List.takeWhile_append_dropWhile.symm⟩
  · simp
  · intro d hd
    have same := List.mem_takeWhile_imp hd
    exact beq_iff_eq.mp same
  · intro d hd
    have stops := List.head?_dropWhile_not (p · == p c) (c :: t)
    rw [Option.mem_def.mp hd] at stops
    exact Bool.eq_not.mpr (by simpa using stops)

/-- What holds of the empty text, and of every text with a stretch in front of a text of which it
holds, holds of all texts. -/
theorem stretch_induction {motive : Text → Prop} (p : Char → Bool) (nil : motive [])
    (run : ∀ u t, IsStretch p true u t → motive t → motive (u ++ t))
    (other : ∀ u t, IsStretch p false u t → motive t → motive (u ++ t)) (t : Text) :
    motive t := by
  induction hn : t.length using Nat.strong_induction_on generalizing t with
  | _ n ih =>
  subst hn
  by_cases empty : t = []
  · rwa [empty]
  · -- A stretch is not empty, so what follows the first one is shorter.
    obtain ⟨inside, u, rest, stretch, rfl⟩ := exists_isStretch p empty
    have shorter : rest.length < (u ++ rest).length := by
      have := List.length_pos_iff.mpr stretch.ne_nil
      rw [List.length_append]
      omega
    have behind := ih rest.length shorter rest rfl
    cases inside with
    | true => exact run u rest stretch behind
    | false => exact other u rest stretch behind

/-- What stands before a run, or makes up the whole text, has no part in the runs. -/
theorem runs_append_of_outside (outside : ∀ c ∈ u, p c = false)
    (stops : ∀ c ∈ t.head?, p c = true) : runs p (u ++ t) = runs p t := by
  by_cases empty : u = []
  · rw [empty, List.nil_append]
  · exact IsStretch.runs_eq_of_outside ⟨empty, outside, stops⟩

end DocMarkdown.Text
