import DocMarkdown.Proofs.Text.Joining
import DocMarkdown.Proofs.Text.Marks

/-!
# Marks in angle brackets

A mark in angle brackets begins with the one bracket that comes back in no other place of it. So
where such marks stand in a text, no two of them overlap, and a text is cut at its marks in one way
only. Where several marks are looked for at once, none may be the beginning of another.

Whatever does not come back in a mark behind its first character is a boundary: no mark reaches
across it, and the marks before it and the marks from it on are those of the two parts.

## Main definitions

* `IsMark` — one of some marks by itself, in either letter case
* `AreBracketed` — marks that do not overlap
* `marksIn` — the marks in a text, as they are spelled there
* `Drops` — a function that drops one of some marks from the front of a text

## Main results

* `mem_marksIn` — what is found are the parts of a text that are marks
* `marksIn_append_mark_append` — a mark between two texts is found between their marks
* `marks_induction` — a text has no marks, or is made up of its first mark and what is around it
* `drops_dropFolded?_or` — one of two marks is dropped, whichever it is
* `cutWith_append_cons`, `replaceWith_append_cons` — a text is worked on apart at a boundary
-/

namespace DocMarkdown.Text

variable {marks : List Text} {m a t new : Text} {c d : Char}

/-- One of the marks by itself, in either letter case. The marks are given in small letters. -/
def IsMark (marks : List Text) (t : Text) : Prop := t.map Char.toLower ∈ marks

instance : DecidablePred (IsMark marks) := fun _ => inferInstanceAs (Decidable (_ ∈ _))

/-- Marks that begin with the bracket and have it in no other place, hold no blanks, and none of
which is the beginning of another. -/
structure AreBracketed (marks : List Text) : Prop where
  begins : ∀ m ∈ marks, m.head? = some '<'
  fresh : ∀ m ∈ marks, '<' ∉ m.tail
  visible : ∀ m ∈ marks, m.any isBlank = false
  apart : ∀ m ∈ marks, ∀ m' ∈ marks, m <+: m' → m = m'

/-- No mark reaches across the character. -/
def IsBoundary (marks : List Text) (d : Char) : Prop := ∀ m, IsMark marks m → d ∉ m.tail

/-- The mark at the front of a text. -/
def markAt? (marks : List Text) (t : Text) : Option Text := t.inits.find? (IsMark marks ·)

/-- The marks in a text, as they are spelled there. -/
def marksIn (marks : List Text) (t : Text) : List Text := t.tails.filterMap (markAt? marks)

/-- What is dropped from the front of a text are the marks. -/
def Drops (next : Text → Option Text) (marks : List Text) : Prop :=
  ∀ t rest, next t = some rest ↔ ∃ m, IsMark marks m ∧ t = m ++ rest

/-- A character that has one letter case stands in a mark only if it does so in small letters. -/
theorem IsMark.not_mem (hm : IsMark marks m) (lower : c.toLower = c) (absent : ∀ m ∈ marks, c ∉ m) :
    c ∉ m :=
  fun member => absent _ hm (lower ▸ List.mem_map_of_mem member)

theorem IsBoundary.of_absent (lower : c.toLower = c) (absent : ∀ m ∈ marks, c ∉ m) :
    IsBoundary marks c :=
  fun _ hm member => hm.not_mem lower absent (List.mem_of_mem_tail member)

theorem Drops.mark_append {next : Text → Option Text} (drops : Drops next marks)
    (hm : IsMark marks m) (rest : Text) : next (m ++ rest) = some rest :=
  (drops _ _).mpr ⟨m, hm, rfl⟩

theorem bracket_not_mem_of_blank (blank : blank t = true) : '<' ∉ t :=
  fun inside => absurd (blank_iff.mp blank _ inside) (by decide)

theorem drops_dropFolded? (mark : Text) : Drops (dropFolded? mark) [mark] := by
  intro t rest
  simp only [IsMark, List.mem_singleton]
  exact dropFolded?_eq_some_iff

theorem marksIn_cons (c : Char) (t : Text) :
    marksIn marks (c :: t) = (markAt? marks (c :: t)).toList ++ marksIn marks t := by
  rw [marksIn, List.tails_cons, List.filterMap_cons]
  cases markAt? marks (c :: t) <;> rfl

namespace AreBracketed

variable (h : AreBracketed marks)

include h

theorem exists_eq_cons (hm : IsMark marks m) : ∃ ms, m = '<' :: ms ∧ '<' ∉ ms := by
  obtain ⟨others, small⟩ := List.head?_eq_some_iff.mp (h.begins _ hm)
  obtain ⟨c, ms, rfl, bracket, rfl⟩ := List.map_eq_cons_iff.mp small
  refine ⟨ms, by rw [eq_bracket_of_toLower bracket], fun inside => h.fresh _ hm ?_⟩
  exact List.mem_map_of_mem inside

theorem ne_nil (hm : IsMark marks m) : m ≠ [] := by
  obtain ⟨ms, rfl, -⟩ := h.exists_eq_cons hm
  exact List.cons_ne_nil '<' ms

theorem isBlank_eq_false (hm : IsMark marks m) : ∀ c ∈ m, isBlank c = false :=
  visible_of_map_toLower (by simpa using h.visible _ hm)

theorem isSolid (hm : IsMark marks m) : IsSolid m :=
  isSolid_of_visible (h.ne_nil hm) (h.isBlank_eq_false hm)

/-- No mark reaches across the bracket, as it begins with it. -/
theorem isBoundary : IsBoundary marks '<' := by
  intro m hm
  obtain ⟨ms, rfl, absent⟩ := h.exists_eq_cons hm
  exact absent

theorem isBoundary_of_isBlank (blank : isBlank d = true) : IsBoundary marks d := by
  intro m hm inside
  simp [h.isBlank_eq_false hm d (List.mem_of_mem_tail inside)] at blank

/-- A text begins with one mark only. -/
theorem eq_of_prefix {m' : Text} (hm : IsMark marks m) (hm' : IsMark marks m') (front : m <+: t)
    (front' : m' <+: t) : m = m' := by
  rcases List.prefix_or_prefix_of_prefix front front' with longer | longer
  · have same := h.apart _ hm _ hm' (longer.map Char.toLower)
    exact longer.eq_of_length (by simpa using congrArg List.length same)
  · have same := h.apart _ hm' _ hm (longer.map Char.toLower)
    exact (longer.eq_of_length (by simpa using congrArg List.length same)).symm

/-! ### The marks in a text -/

theorem markAt?_eq_some_iff : markAt? marks t = some m ↔ IsMark marks m ∧ m <+: t := by
  have sound {m : Text} (found : markAt? marks t = some m) : IsMark marks m ∧ m <+: t :=
    ⟨by simpa using List.find?_some found,
      (List.mem_inits _ _).mp (List.mem_of_find?_eq_some found)⟩
  refine ⟨sound, fun ⟨hm, front⟩ => ?_⟩
  have found : (markAt? marks t).isSome = true :=
    List.find?_isSome.mpr ⟨m, (List.mem_inits m t).mpr front, decide_eq_true hm⟩
  obtain ⟨m', found⟩ := Option.isSome_iff_exists.mp found
  obtain ⟨hm', front'⟩ := sound found
  rw [found, h.eq_of_prefix hm' hm front' front]

/-- What is found are the parts of a text that are marks. -/
theorem mem_marksIn : m ∈ marksIn marks t ↔ IsMark marks m ∧ m <:+: t := by
  simp only [marksIn, List.mem_filterMap, List.mem_tails, h.markAt?_eq_some_iff,
    List.infix_iff_prefix_suffix]
  exact ⟨fun ⟨u, back, hm, front⟩ => ⟨hm, u, front, back⟩,
    fun ⟨hm, u, front, back⟩ => ⟨u, back, hm, front⟩⟩

theorem marksIn_eq_nil_iff : marksIn marks t = [] ↔ ∀ m, IsMark marks m → ¬ m <:+: t := by
  simp only [List.eq_nil_iff_forall_not_mem, h.mem_marksIn, not_and]

/-- Where there are none of some marks, there are none of any of them. -/
theorem marksIn_eq_nil_of_subset {marks' : List Text} (h' : AreBracketed marks')
    (fewer : marks' ⊆ marks) (free : marksIn marks t = []) : marksIn marks' t = [] := by
  rw [h.marksIn_eq_nil_iff] at free
  rw [h'.marksIn_eq_nil_iff]
  exact fun m hm => free m (fewer hm)

theorem marksIn_nil : marksIn marks [] = [] := by
  rw [h.marksIn_eq_nil_iff]
  intro m hm inside
  exact h.ne_nil hm (List.infix_nil.mp inside)

/-- A mark does not reach across a boundary. -/
theorem markAt?_append_cons (boundary : IsBoundary marks d) (c : Char) (a b : Text) :
    markAt? marks (c :: a ++ d :: b) = markAt? marks (c :: a) := by
  ext m
  simp only [h.markAt?_eq_some_iff]
  refine and_congr_right fun hm => ?_
  obtain ⟨ms, rfl, -⟩ := h.exists_eq_cons hm
  have absent : d ∉ ms := boundary _ hm
  rw [List.cons_append, List.cons_prefix_cons, List.cons_prefix_cons, prefix_append_cons_iff absent]

/-- The marks on the two sides of a boundary. -/
theorem marksIn_append_cons (boundary : IsBoundary marks d) (a b : Text) :
    marksIn marks (a ++ d :: b) = marksIn marks a ++ marksIn marks (d :: b) := by
  induction a with
  | nil => rw [h.marksIn_nil, List.nil_append, List.nil_append]
  | cons c a ih =>
    rw [marksIn_cons, ← h.markAt?_append_cons boundary c a b, List.append_assoc, ← ih,
      List.cons_append, marksIn_cons]

/-- Marks begin with the bracket. -/
theorem marksIn_append_of_not_mem (absent : '<' ∉ a) (b : Text) :
    marksIn marks (a ++ b) = marksIn marks b := by
  induction a with
  | nil => rfl
  | cons c a ih =>
    rw [List.mem_cons, not_or] at absent
    have none : markAt? marks (c :: (a ++ b)) = none := by
      rw [Option.eq_none_iff_forall_ne_some]
      intro m found
      obtain ⟨hm, front⟩ := h.markAt?_eq_some_iff.mp found
      obtain ⟨ms, rfl, -⟩ := h.exists_eq_cons hm
      exact absent.1 (List.cons_prefix_cons.mp front).1
    rw [List.cons_append, marksIn_cons, none, ih absent.2]
    rfl

theorem marksIn_of_not_mem (absent : '<' ∉ t) : marksIn marks t = [] := by
  rw [← List.append_nil t, h.marksIn_append_of_not_mem absent, h.marksIn_nil]

/-- A mark between two texts is found between their marks. -/
theorem marksIn_append_mark_append (hm : IsMark marks m) (a b : Text) :
    marksIn marks (a ++ m ++ b) = marksIn marks a ++ m :: marksIn marks b := by
  have own := h.markAt?_eq_some_iff.mpr ⟨hm, List.prefix_append m b⟩
  obtain ⟨ms, rfl, absent⟩ := h.exists_eq_cons hm
  rw [List.append_assoc, List.cons_append, h.marksIn_append_cons h.isBoundary, marksIn_cons,
    ← List.cons_append, own, h.marksIn_append_of_not_mem absent]
  rfl

/-- A text has no marks, or is made up of its first mark and what is around it. -/
theorem marksIn_cases (t : Text) :
    marksIn marks t = [] ∨ ∃ a m b, marksIn marks a = [] ∧ IsMark marks m ∧ t = a ++ m ++ b := by
  induction t with
  | nil => exact Or.inl h.marksIn_nil
  | cons c t ih =>
    cases found : markAt? marks (c :: t) with
    | some m =>
      obtain ⟨hm, b, whole⟩ := h.markAt?_eq_some_iff.mp found
      exact Or.inr ⟨[], m, b, h.marksIn_nil, hm, whole.symm⟩
    | none =>
      rcases ih with free | ⟨a, m, b, free, hm, rfl⟩
      · left
        rw [marksIn_cons, found, free]
        rfl
      · refine Or.inr ⟨c :: a, m, b, ?_, hm, rfl⟩
        -- A mark at the front of `c :: a` would be one at the front of the whole.
        obtain ⟨ms, rfl, -⟩ := h.exists_eq_cons hm
        rw [List.append_assoc, List.cons_append, ← List.cons_append,
          h.markAt?_append_cons h.isBoundary] at found
        rw [marksIn_cons, found, free]
        rfl

/-- What holds of texts without marks, and of a text with a mark in front of it if it holds of the
text, holds of all. -/
theorem marks_induction {motive : Text → Prop} (plain : ∀ a, marksIn marks a = [] → motive a)
    (marked : ∀ a m b, marksIn marks a = [] → IsMark marks m → motive b → motive (a ++ m ++ b))
    (t : Text) : motive t := by
  induction hn : t.length using Nat.strong_induction_on generalizing t with
  | _ n ih =>
  subst hn
  rcases h.marksIn_cases t with free | ⟨a, m, b, free, hm, rfl⟩
  · exact plain t free
  · refine marked a m b free hm (ih b.length ?_ b rfl)
    obtain ⟨ms, rfl, -⟩ := h.exists_eq_cons hm
    simp only [List.length_append, List.length_cons]
    omega

/-- The first of the marks in a text, and what is around it. -/
theorem exists_of_marksIn_eq_cons {ms : List Text} (found : marksIn marks t = m :: ms) :
    ∃ a b, t = a ++ m ++ b ∧ IsMark marks m ∧ marksIn marks a = [] ∧ marksIn marks b = ms := by
  rcases h.marksIn_cases t with free | ⟨a, m', b, free, hm, rfl⟩
  · simp [free] at found
  · rw [h.marksIn_append_mark_append hm, free, List.nil_append, List.cons.injEq] at found
    obtain ⟨rfl, rfl⟩ := found
    exact ⟨a, b, rfl, hm, free, rfl⟩

/-! ### Cutting at marks -/

variable {next : Text → Option Text} (drops : Drops next marks)

include drops

theorem next_eq_none_iff : next t = none ↔ markAt? marks t = none := by
  constructor
  · intro none
    rw [Option.eq_none_iff_forall_ne_some]
    intro m found
    obtain ⟨hm, rest, rfl⟩ := h.markAt?_eq_some_iff.mp found
    cases none.symm.trans (drops.mark_append hm rest)
  · intro none
    rw [Option.eq_none_iff_forall_ne_some]
    intro rest found
    obtain ⟨m, hm, rfl⟩ := (drops _ _).mp found
    cases none.symm.trans (h.markAt?_eq_some_iff.mpr ⟨hm, List.prefix_append m rest⟩)

/-- Cutting fails on the texts without marks. -/
theorem cutWith_of_marksIn_eq_nil (free : marksIn marks t = []) : cutWith next t = none := by
  rw [Option.eq_none_iff_forall_ne_some]
  rintro ⟨before, after⟩ found
  obtain ⟨rest, dropped, rfl⟩ := exists_of_cutWith found
  obtain ⟨m, hm, rfl⟩ := (drops _ _).mp dropped
  exact h.marksIn_eq_nil_iff.mp free m hm ⟨before, after, by simp⟩

/-- Behind a text without marks, a text is cut where it is from a boundary on. -/
theorem cutWith_append_cons (boundary : IsBoundary marks d) (free : marksIn marks a = [])
    (b : Text) :
    cutWith next (a ++ d :: b) =
      (cutWith next (d :: b)).map fun (before, after) => (a ++ before, after) := by
  induction a with
  | nil => simp
  | cons c a ih =>
    rw [marksIn_cons, List.append_eq_nil_iff, Option.toList_eq_nil_iff] at free
    have passed : next (c :: a ++ d :: b) = none := by
      rw [h.next_eq_none_iff drops, h.markAt?_append_cons boundary, free.1]
    rw [List.cons_append] at passed ⊢
    rw [cutWith, passed, ih free.2, Option.map_map]
    rfl

/-- A text is cut at its first mark. -/
theorem cutWith_append_mark_append (free : marksIn marks a = []) (hm : IsMark marks m) (b : Text) :
    cutWith next (a ++ m ++ b) = some (a, b) := by
  have own := drops.mark_append hm b
  obtain ⟨ms, rfl, -⟩ := h.exists_eq_cons hm
  rw [List.append_assoc, List.cons_append, h.cutWith_append_cons drops h.isBoundary free, cutWith,
    ← List.cons_append, own]
  simp

/-- At a boundary, marks are replaced on the two sides apart. -/
theorem replaceWith_append_cons {shortens : Shortens next} (boundary : IsBoundary marks d)
    (a b : Text) :
    replaceWith next shortens new (a ++ d :: b) =
      replaceWith next shortens new a ++ replaceWith next shortens new (d :: b) := by
  induction a using h.marks_induction with
  | plain a free =>
    rw [replaceWith_of_none (h.cutWith_of_marksIn_eq_nil drops free)]
    exact replaceWith_append (h.cutWith_append_cons drops boundary free b)
  | marked a m q free hm ih =>
    rw [List.append_assoc _ q,
      replaceWith_of_some (h.cutWith_append_mark_append drops free hm (q ++ d :: b)),
      replaceWith_of_some (h.cutWith_append_mark_append drops free hm q), ih, List.append_assoc,
      List.append_assoc, List.append_assoc]

end AreBracketed

/-- Where one of two marks is dropped or the other, no matter which is looked for first. -/
theorem drops_dropFolded?_or {m m' : Text} (h : AreBracketed [m, m']) :
    Drops (fun t => (dropFolded? m t).or (dropFolded? m' t)) [m, m'] := by
  have first {x : Text} (small : x.map Char.toLower = m) : IsMark [m, m'] x :=
    List.mem_pair.mpr (Or.inl small)
  intro t rest
  rw [Option.or_eq_some_iff]
  constructor
  · rintro (found | ⟨-, found⟩)
    · obtain ⟨x, small, whole⟩ := dropFolded?_eq_some_iff.mp found
      exact ⟨x, first small, whole⟩
    · obtain ⟨x, small, whole⟩ := dropFolded?_eq_some_iff.mp found
      exact ⟨x, List.mem_pair.mpr (Or.inr small), whole⟩
  · rintro ⟨x, hx, rfl⟩
    rcases List.mem_pair.mp hx with small | small
    · exact Or.inl (dropFolded?_eq_some_iff.mpr ⟨x, small, rfl⟩)
    · have second : dropFolded? m' (x ++ rest) = some rest :=
        dropFolded?_eq_some_iff.mpr ⟨x, small, rfl⟩
      cases found : dropFolded? m (x ++ rest) with
      | none => exact Or.inr ⟨rfl, second⟩
      | some rest' =>
        -- The text begins with one mark only, so the two are the same.
        obtain ⟨y, small', whole⟩ := dropFolded?_eq_some_iff.mp found
        have same := h.eq_of_prefix hx (first small') (List.prefix_append x rest)
          (whole ▸ List.prefix_append y rest')
        rw [← same] at whole
        exact Or.inl (congrArg some (List.append_cancel_left whole).symm)

end DocMarkdown.Text
