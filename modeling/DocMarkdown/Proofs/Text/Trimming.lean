import DocMarkdown.Text.Blank
import Mathlib.Data.List.DropRight
import Mathlib.Data.List.Infix
import Mathlib.Data.List.TakeWhile

/-!
# Blanks, trimming, and functions that act on blanks only

Trimming takes the blanks off the two ends of a text. Much of what is done to a text changes its
blanks and nothing else: such a function keeps every other character, and works apart on what stands
before and after it. All that is not blank is then found in the result as it was in the text, and
trimming may come first or last.

## Main definitions

* `Text.ActsOnBlanks` — a function that changes the blanks of a text only

## Main results

* `trim_append_blank`, `trim_blank_append` — blanks at the ends do not matter to trimming
* `blank_or_eq_append`, `blank_or_eq_append_blank` — the first and the last character not blank
* `ActsOnBlanks.trim_comm` — trimming commutes with a function that acts on blanks only
* `ActsOnBlanks.infix_iff` — such a function makes no mark and loses none
* `actsOnBlanks_of_dropping`, `actsOnBlanks_of_skipping` — ways to drop blanks only
-/

namespace DocMarkdown.Text

variable {a b t : Text} {c : Char}

theorem blank_iff : blank t = true ↔ ∀ c ∈ t, isBlank c = true := List.all_eq_true

@[simp] theorem blank_nil : blank [] = true := rfl

@[simp] theorem blank_cons : blank (c :: t) = (isBlank c && blank t) := rfl

@[simp] theorem blank_append : blank (a ++ b) = (blank a && blank b) := List.all_append

/-! ### The two ends of a text -/

/-- A text is blank, or has a first character that is not. -/
theorem blank_or_eq_append (t : Text) :
    blank t = true ∨ ∃ a c b, blank a = true ∧ isBlank c = false ∧ t = a ++ c :: b := by
  induction t with
  | nil => exact Or.inl rfl
  | cons x t ih =>
    cases hx : isBlank x with
    | false => exact Or.inr ⟨[], x, t, rfl, hx, rfl⟩
    | true =>
      rcases ih with h | ⟨a, c, b, ha, hc, rfl⟩
      · exact Or.inl (by simp [hx, h])
      · exact Or.inr ⟨x :: a, c, b, by simp [hx, ha], hc, rfl⟩

/-- A text is blank, or has a last character that is not. -/
theorem blank_or_eq_append_blank (t : Text) :
    blank t = true ∨ ∃ a c b, isBlank c = false ∧ blank b = true ∧ t = a ++ c :: b := by
  induction t with
  | nil => exact Or.inl rfl
  | cons x t ih =>
    rcases ih with h | ⟨a, c, b, hc, hb, rfl⟩
    · cases hx : isBlank x with
      | false => exact Or.inr ⟨[], x, t, hx, h, rfl⟩
      | true => exact Or.inl (by simp [hx, h])
    · exact Or.inr ⟨x :: a, c, b, hc, hb, rfl⟩

theorem trimStart_append_of_blank (ha : blank a = true) : trimStart (a ++ b) = trimStart b :=
  List.dropWhile_append_of_pos (blank_iff.mp ha)

theorem trimStart_cons_of_not_blank (hc : isBlank c = false) : trimStart (c :: t) = c :: t := by
  simp [trimStart, hc]

theorem trimStart_of_blank (h : blank t = true) : trimStart t = [] := by
  simpa using trimStart_append_of_blank (b := []) h

theorem trimEnd_append_of_blank (hb : blank b = true) : trimEnd (a ++ b) = trimEnd a := by
  have trailing : ∀ c ∈ b.reverse, isBlank c = true := by
    intro c hc
    exact blank_iff.mp hb c (List.mem_reverse.mp hc)
  rw [trimEnd, trimEnd, List.reverse_append, List.dropWhile_append_of_pos trailing]

theorem trimEnd_append_cons (hc : isBlank c = false) (hb : blank b = true) :
    trimEnd (a ++ c :: b) = a ++ [c] := by
  rw [List.append_cons, trimEnd_append_of_blank hb]
  have keeps : ¬ isBlank c = true := by simp [hc]
  exact List.rdropWhile_concat_neg isBlank _ c keeps

/-- Behind a visible character, only the end is trimmed. -/
theorem trimEnd_append_cons_append (hc : isBlank c = false) (a b : Text) :
    trimEnd (a ++ c :: b) = a ++ c :: trimEnd b := by
  rcases blank_or_eq_append_blank b with hb | ⟨v, d, w, hd, hw, rfl⟩
  · have none : trimEnd b = [] := by simpa using trimEnd_append_of_blank (a := []) hb
    rw [trimEnd_append_cons hc hb, none]
  · have whole : a ++ c :: (v ++ d :: w) = (a ++ c :: v) ++ d :: w := by simp
    rw [whole, trimEnd_append_cons hd hw, trimEnd_append_cons hd hw]
    simp

theorem trimEnd_of_blank (h : blank t = true) : trimEnd t = [] := by
  simpa using trimEnd_append_of_blank (a := []) h

theorem trim_blank_append (ha : blank a = true) : trim (a ++ b) = trim b := by
  rw [trim, trim, trimStart_append_of_blank ha]

theorem trim_append_blank (hb : blank b = true) : trim (a ++ b) = trim a := by
  -- The blanks behind are dropped last, unless nothing visible stands before them.
  rcases blank_or_eq_append a with ha | ⟨w, c, u, hw, hc, rfl⟩
  · rw [trim_blank_append ha, trim, trim, trimStart_of_blank ha, trimStart_of_blank hb]
  · rw [List.append_assoc, List.cons_append, trim_blank_append hw, trim_blank_append hw, trim, trim,
      trimStart_cons_of_not_blank hc, trimStart_cons_of_not_blank hc, ← List.cons_append,
      trimEnd_append_of_blank hb]

theorem trim_of_blank (h : blank t = true) : trim t = [] := by
  rw [trim, trimStart_of_blank h, trimEnd_nil]

/-- Trimming takes blanks off the two ends, and nothing else. -/
theorem exists_eq_trim (t : Text) :
    ∃ a b, blank a = true ∧ blank b = true ∧ t = a ++ trim t ++ b := by
  rcases blank_or_eq_append t with h | ⟨a, c, u, ha, hc, rfl⟩
  · exact ⟨t, [], h, rfl, by simp [trim_of_blank h]⟩
  · rcases blank_or_eq_append_blank (c :: u) with h | ⟨v, d, b, hd, hb, same⟩
    · simp [hc] at h
    · refine ⟨a, b, ha, hb, ?_⟩
      rw [trim_blank_append ha, trim, trimStart_cons_of_not_blank hc, same,
        trimEnd_append_cons hd hb]
      simp

theorem trim_isInfix (t : Text) : trim t <:+: t := by
  obtain ⟨a, b, -, -, same⟩ := exists_eq_trim t
  exact ⟨a, b, same.symm⟩

theorem mem_of_mem_trim (h : c ∈ trim t) : c ∈ t := (trim_isInfix t).subset h

@[simp] theorem trim_trim (t : Text) : trim (trim t) = trim t := by
  obtain ⟨a, b, ha, hb, same⟩ := exists_eq_trim t
  have := congrArg trim same
  rw [trim_append_blank hb, trim_blank_append ha] at this
  exact this.symm

theorem trim_trimEnd (t : Text) : trim (trimEnd t) = trim t := by
  rcases blank_or_eq_append_blank t with h | ⟨a, c, b, hc, hb, rfl⟩
  · rw [trimEnd_of_blank h, trim_of_blank h, trim_nil]
  · rw [trimEnd_append_cons hc hb, List.append_cons a c b, trim_append_blank hb]

/-! ### Functions that act on blanks only -/

/-- A function that changes the blanks of a text only: it keeps every other character and works
apart on the two sides of it, turns blanks into blanks, and leaves no text empty that was not. -/
structure ActsOnBlanks (f : Text → Text) : Prop where
  append_cons {a b : Text} {c : Char} : isBlank c = false → f (a ++ c :: b) = f a ++ c :: f b
  blanks {t : Text} : blank t = true → blank (f t) = true
  eq_nil_iff {t : Text} : f t = [] ↔ t = []

namespace ActsOnBlanks

variable {f g : Text → Text} {mark : Text}

theorem nil (acts : ActsOnBlanks f) : f [] = [] := acts.eq_nil_iff.mpr rfl

theorem cons (acts : ActsOnBlanks f) (hc : isBlank c = false) : f (c :: t) = c :: f t := by
  simpa [acts.nil] using acts.append_cons (a := []) (b := t) hc

/-- A text without blanks is left as it is. -/
theorem eq_self (acts : ActsOnBlanks f) (visible : ∀ c ∈ t, isBlank c = false) : f t = t := by
  induction t with
  | nil => exact acts.nil
  | cons c t ih =>
    rw [acts.cons (visible c List.mem_cons_self),
      ih fun x hx => visible x (List.mem_cons_of_mem c hx)]

theorem comp (hf : ActsOnBlanks f) (hg : ActsOnBlanks g) : ActsOnBlanks fun t => f (g t) where
  append_cons hc := by rw [hg.append_cons hc, hf.append_cons hc]
  blanks h := hf.blanks (hg.blanks h)
  eq_nil_iff := hf.eq_nil_iff.trans hg.eq_nil_iff

/-- A mark without blanks stays, and what stands on its two sides is worked on apart. -/
theorem append_mark_append (acts : ActsOnBlanks f) (nonempty : mark ≠ [])
    (visible : ∀ c ∈ mark, isBlank c = false) : f (a ++ mark ++ b) = f a ++ mark ++ f b := by
  -- Nothing stands between two characters of the mark, so nothing is worked on there.
  induction mark generalizing a with
  | nil => exact absurd rfl nonempty
  | cons m mark ih =>
    have hm := visible m List.mem_cons_self
    cases mark with
    | nil => simp [acts.append_cons hm]
    | cons m' mark =>
      have rest : f ([] ++ m' :: mark ++ b) = f [] ++ m' :: mark ++ f b :=
        ih (List.cons_ne_nil _ _) fun c hc => visible c (List.mem_cons_of_mem _ hc)
      rw [acts.nil, List.nil_append] at rest
      rw [List.append_assoc, List.cons_append, acts.append_cons hm, rest]
      simp

theorem trimStart_comm (acts : ActsOnBlanks f) (t : Text) : trimStart (f t) = f (trimStart t) := by
  rcases blank_or_eq_append t with h | ⟨a, c, b, ha, hc, rfl⟩
  · rw [trimStart_of_blank h, trimStart_of_blank (acts.blanks h), acts.nil]
  · rw [acts.append_cons hc, trimStart_append_of_blank ha,
      trimStart_append_of_blank (acts.blanks ha), trimStart_cons_of_not_blank hc,
      trimStart_cons_of_not_blank hc, acts.cons hc]

theorem trimEnd_comm (acts : ActsOnBlanks f) (t : Text) : trimEnd (f t) = f (trimEnd t) := by
  rcases blank_or_eq_append_blank t with h | ⟨a, c, b, hc, hb, rfl⟩
  · rw [trimEnd_of_blank h, trimEnd_of_blank (acts.blanks h), acts.nil]
  · rw [acts.append_cons hc, trimEnd_append_cons hc hb, trimEnd_append_cons hc (acts.blanks hb),
      acts.append_cons hc, acts.nil]

/-- Trimming may come before or after. -/
theorem trim_comm (acts : ActsOnBlanks f) (t : Text) : trim (f t) = f (trim t) := by
  rw [trim, acts.trimStart_comm, acts.trimEnd_comm, trim]

/-- What began with a blank still does. -/
theorem exists_blank_cons (acts : ActsOnBlanks f) (hc : isBlank c = true) :
    ∃ d u, isBlank d = true ∧ f (c :: t) = d :: u := by
  -- As far as the text is blank, so is the result, and something is left of it.
  have key : ∀ w : Text, blank (c :: w) = true → ∃ d u, isBlank d = true ∧ f (c :: w) = d :: u := by
    intro w hw
    obtain ⟨d, u, same⟩ := List.exists_cons_of_ne_nil (mt acts.eq_nil_iff.mp (List.cons_ne_nil c w))
    have := acts.blanks hw
    rw [same, blank_cons, Bool.and_eq_true] at this
    exact ⟨d, u, this.1, same⟩
  rcases blank_or_eq_append t with h | ⟨a, x, b, ha, hx, rfl⟩
  · exact key t (by simp [hc, h])
  · obtain ⟨d, u, hd, same⟩ := key a (by simp [hc, ha])
    exact ⟨d, u ++ x :: f b, hd, by
      rw [← List.cons_append, acts.append_cons hx, same, List.cons_append]⟩

/-- A mark without blanks stands at the front of the result where it did in the text. -/
theorem prefix_iff (acts : ActsOnBlanks f) (visible : ∀ c ∈ mark, isBlank c = false) :
    mark <+: f t ↔ mark <+: t := by
  induction mark generalizing t with
  | nil => simp
  | cons m mark ih =>
    have hm := visible m List.mem_cons_self
    cases t with
    | nil => rw [acts.nil]
    | cons c t =>
      cases hc : isBlank c with
      | false =>
        rw [acts.cons hc, List.cons_prefix_cons, List.cons_prefix_cons,
          ih fun c hc => visible c (List.mem_cons_of_mem _ hc)]
      | true =>
        obtain ⟨d, u, hd, same⟩ := acts.exists_blank_cons (t := t) hc
        -- The mark begins with neither of the two blanks.
        have hmc : m ≠ c := by
          rintro rfl
          simp [hc] at hm
        have hmd : m ≠ d := by
          rintro rfl
          simp [hd] at hm
        rw [same, List.cons_prefix_cons, List.cons_prefix_cons]
        simp [hmc, hmd]

theorem infix_blank_append_iff (nonempty : mark ≠ []) (visible : ∀ c ∈ mark, isBlank c = false)
    (ha : blank a = true) : mark <:+: a ++ b ↔ mark <:+: b := by
  induction a with
  | nil => rw [List.nil_append]
  | cons x a ih =>
    rw [blank_cons, Bool.and_eq_true] at ha
    obtain ⟨m, ms, rfl⟩ := List.exists_cons_of_ne_nil nonempty
    have hm : m ≠ x := by
      rintro rfl
      simp [visible m List.mem_cons_self] at ha
    rw [List.cons_append, List.infix_cons_iff, List.cons_prefix_cons, ih ha.2]
    simp [hm]

/-- A mark without blanks is neither made nor lost. -/
theorem infix_iff (acts : ActsOnBlanks f) (nonempty : mark ≠ [])
    (visible : ∀ c ∈ mark, isBlank c = false) : mark <:+: f t ↔ mark <:+: t := by
  -- The blanks in front hold no mark. One may stand at the first character that is not blank, and
  -- behind it the text is shorter.
  induction hn : t.length using Nat.strong_induction_on generalizing t with
  | _ n ih =>
  subst hn
  rcases blank_or_eq_append t with h | ⟨a, c, b, ha, hc, rfl⟩
  · have stays := infix_blank_append_iff (b := []) nonempty visible h
    have becomes := infix_blank_append_iff (b := []) nonempty visible (acts.blanks h)
    rw [List.append_nil] at stays becomes
    rw [stays, becomes]
  · have shorter : b.length < (a ++ c :: b).length := by
      rw [List.length_append, List.length_cons]
      omega
    rw [acts.append_cons hc, infix_blank_append_iff nonempty visible ha,
      infix_blank_append_iff nonempty visible (acts.blanks ha), ← acts.cons hc,
      List.infix_cons_iff, acts.cons hc, List.infix_cons_iff, ← acts.cons hc,
      acts.prefix_iff visible, ih b.length shorter rfl]

theorem mem_iff (acts : ActsOnBlanks f) (hc : isBlank c = false) : c ∈ f t ↔ c ∈ t := by
  rw [← List.singleton_infix_iff, ← List.singleton_infix_iff]
  exact acts.infix_iff (List.cons_ne_nil _ _) (by simpa using hc)

/-- A front part that may hold any blank is found before or after. -/
theorem takeWhile_comm (acts : ActsOnBlanks f) {p : Char → Bool}
    (blanks : ∀ c, isBlank c = true → p c = true) (t : Text) :
    (f t).takeWhile p = f (t.takeWhile p) := by
  have inside : ∀ c ∈ f (t.takeWhile p), p c = true := by
    intro c hc
    by_cases ink : isBlank c = true
    · exact blanks c ink
    · exact List.mem_takeWhile_imp ((acts.mem_iff (Bool.eq_false_iff.mpr ink)).mp hc)
  have split : t.takeWhile p ++ t.dropWhile p = t := List.takeWhile_append_dropWhile
  cases rest : t.dropWhile p with
  | nil =>
    rw [rest, List.append_nil] at split
    rw [split] at inside ⊢
    exact List.takeWhile_eq_self_iff.mpr inside
  | cons c b =>
    -- The front part ends at a character that is not blank, so the rest is worked on apart.
    have stops : p c = false := by
      have := List.head?_dropWhile_not p t
      rwa [rest] at this
    have ink : isBlank c = false := by
      apply Bool.eq_false_iff.mpr
      intro h
      simp [blanks c h] at stops
    have whole : f t = f (t.takeWhile p) ++ c :: f b := by
      rw [← acts.append_cons ink, ← rest, split]
    rw [whole, List.takeWhile_append_of_pos inside, List.takeWhile_cons_of_neg (by simp [stops]),
      List.append_nil]

end ActsOnBlanks

/-! ### Functions that drop blanks

Blanks are dropped in two ways. Either a text is read from its end, and what is kept of the rest
decides whether the character before it is dropped. Or it is read from its front, and a character
that was kept decides whether those after it are skipped. -/

/-- Dropping some characters in view of what is kept after them acts on blanks only, if these
characters are blanks, none is dropped at the end, and a visible character hides what follows it. -/
theorem actsOnBlanks_of_dropping {f : Text → Text} (drops : Char → Text → Bool)
    (onNil : f [] = []) (onCons : ∀ c t, f (c :: t) = if drops c (f t) then f t else c :: f t)
    (blanks : ∀ c t, drops c t = true → isBlank c = true) (atEnd : ∀ c, drops c [] = false)
    (hides : ∀ x a c b, isBlank c = false → drops x (a ++ c :: b) = drops x a) :
    ActsOnBlanks f where
  append_cons {a b c} hc := by
    induction a with
    | nil =>
      have kept : ¬ drops c (f b) = true := by
        intro dropped
        rw [blanks c _ dropped] at hc
        cases hc
      rw [List.nil_append, onCons, if_neg kept, onNil, List.nil_append]
    | cons x a ih =>
      rw [List.cons_append, onCons, ih, hides x _ c _ hc, onCons]
      split <;> rfl
  blanks {t} h := by
    induction t with
    | nil => rwa [onNil]
    | cons c t ih =>
      rw [blank_cons, Bool.and_eq_true] at h
      rw [onCons]
      split
      · exact ih h.2
      · rw [blank_cons, h.1, ih h.2, Bool.and_self]
  eq_nil_iff {t} := by
    cases t with
    | nil => exact iff_of_true onNil rfl
    | cons c t =>
      refine iff_of_false (fun none => ?_) (List.cons_ne_nil c t)
      -- If nothing were left, the last character dropped would be dropped at the end.
      rw [onCons] at none
      split at none
      · next dropped =>
        rw [none, atEnd c] at dropped
        cases dropped
      · cases none

/-- Skipping blanks after some blanks acts on blanks only. -/
theorem actsOnBlanks_of_skipping {f : Bool → Text → Text} (skips stops : Char → Bool)
    (onNil : ∀ skipping, f skipping [] = [])
    (onCons : ∀ skipping c t, f skipping (c :: t) =
      if skipping && skips c then f true t else c :: f (stops c) t)
    (skipped : ∀ c, skips c = true → isBlank c = true)
    (stopping : ∀ c, stops c = true → isBlank c = true) : ActsOnBlanks (f false) where
  append_cons {a b c} hc := by
    have noSkip : skips c = false := Bool.eq_false_iff.mpr (mt (skipped c) (by simp [hc]))
    have noStop : stops c = false := Bool.eq_false_iff.mpr (mt (stopping c) (by simp [hc]))
    -- Whether characters are being skipped is settled at the first one that is visible.
    have general : ∀ skipping, f skipping (a ++ c :: b) = f skipping a ++ c :: f false b := by
      induction a with
      | nil =>
        intro skipping
        rw [List.nil_append, onCons, onNil, noSkip, noStop, Bool.and_false]
        rfl
      | cons x a ih =>
        intro skipping
        rw [List.cons_append, onCons, ih, ih, onCons]
        split <;> rfl
    exact general false
  blanks {t} h := by
    have general : ∀ skipping, blank (f skipping t) = true := by
      induction t with
      | nil =>
        intro skipping
        rw [onNil, blank_nil]
      | cons c t ih =>
        rw [blank_cons, Bool.and_eq_true] at h
        intro skipping
        rw [onCons]
        split
        · exact ih h.2 true
        · rw [blank_cons, h.1, ih h.2, Bool.and_self]
    exact general false
  eq_nil_iff {t} := by
    cases t with
    | nil => exact iff_of_true (onNil false) rfl
    | cons c t =>
      rw [onCons, Bool.false_and]
      exact iff_of_false (List.cons_ne_nil c _) (List.cons_ne_nil c t)

end DocMarkdown.Text
