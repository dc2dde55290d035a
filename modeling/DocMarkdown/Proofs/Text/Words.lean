import DocMarkdown.Proofs.Text.Trimming
import DocMarkdown.Text.Fields

/-!
# Words

The words of a text are what stands between its blanks. Splitting a text at its first word takes one
word away from it and keeps the others, with all that stands between them.

## Main definitions

* `Text.words` — the words of a text
* `Text.IsSplit` — a text as its first word, the blanks behind it and the remainder

## Main results

* `words_append_cons` — the words on the two sides of a blank
* `isSplit_splitWord`, `IsSplit.splitWord_eq` — a text is split in one way
* `IsSplit.words_eq` — a split loses no word
-/

namespace DocMarkdown.Text

variable {a b t word gap rest : Text} {c : Char}

/-- The words of a text, in order. -/
def words (t : Text) : List Text := (t.splitOnP isBlank).filter (· ≠ [])

@[simp] theorem words_nil : words [] = [] := rfl

/-- The words on the two sides of a blank. -/
theorem words_append_cons (hc : isBlank c = true) (a b : Text) :
    words (a ++ c :: b) = words a ++ words b := by
  rw [words, List.splitOnP_append_cons a b hc, List.filter_append]
  rfl

theorem words_blank_append (ha : blank a = true) (b : Text) : words (a ++ b) = words b := by
  induction a with
  | nil => rfl
  | cons c a ih =>
    rw [blank_cons, Bool.and_eq_true] at ha
    exact (words_append_cons ha.1 [] (a ++ b)).trans (ih ha.2)

/-- A text without blanks is one word, unless it is empty. -/
theorem words_of_visible (visible : ∀ c ∈ t, isBlank c = false) :
    words t = [t].filter (· ≠ []) := by
  rw [words, List.splitOnP_eq_singleton visible]

/-! ### The first word -/

/-- A text is split into its longest front without blanks, the blanks behind it and the remainder,
which begins with the next word. -/
structure IsSplit (t word gap rest : Text) : Prop where
  eq : t = word ++ gap ++ rest
  visible : ∀ c ∈ word, isBlank c = false
  blank : Text.blank gap = true
  flush : ∀ c ∈ rest.head?, isBlank c = false
  stops : gap = [] → rest = []

theorem not_of_mem_head?_dropWhile {p : Char → Bool} (h : c ∈ (t.dropWhile p).head?) :
    p c = false := by
  have first := List.head?_dropWhile_not p t
  rwa [Option.mem_def.mp h] at first

/-- Every text is split by `splitWord`. -/
theorem isSplit_splitWord (t : Text) : ∃ gap, IsSplit t (splitWord t).1 gap (splitWord t).2 := by
  refine ⟨(t.dropWhile (!isBlank ·)).takeWhile isBlank, ?_, ?_, ?_, ?_, ?_⟩
  · rw [splitWord, List.append_assoc, trimStart, List.takeWhile_append_dropWhile,
      List.takeWhile_append_dropWhile]
  · intro c hc
    simpa using List.mem_takeWhile_imp hc
  · exact blank_iff.mpr fun c hc => List.mem_takeWhile_imp hc
  · exact fun c hc => not_of_mem_head?_dropWhile hc
  · -- Behind the word the text goes on with a blank, if it goes on.
    intro none
    cases behind : t.dropWhile (!isBlank ·) with
    | nil => rw [splitWord, behind, trimStart_nil]
    | cons c rest =>
      have next : c ∈ (t.dropWhile (!isBlank ·)).head? := by rw [behind]; rfl
      have blank : isBlank c = true := by simpa using not_of_mem_head?_dropWhile next
      rw [behind, List.takeWhile_cons_of_pos blank] at none
      cases none

/-- A text is split in one way only. -/
theorem IsSplit.splitWord_eq (split : IsSplit t word gap rest) : splitWord t = (word, rest) := by
  obtain ⟨rfl, visible, blank, flush, stops⟩ := split
  have kept : ∀ c ∈ word, (!isBlank c) = true := fun c hc => by simp [visible c hc]
  -- Nothing more belongs to the word where a blank or the end follows.
  have ends : (gap ++ rest).takeWhile (!isBlank ·) = [] ∧
      (gap ++ rest).dropWhile (!isBlank ·) = gap ++ rest := by
    cases gap with
    | nil =>
      obtain rfl := stops rfl
      exact ⟨rfl, rfl⟩
    | cons c gap =>
      rw [blank_cons, Bool.and_eq_true] at blank
      simp [blank.1]
  have start : trimStart (gap ++ rest) = rest := by
    rw [trimStart_append_of_blank blank]
    cases rest with
    | nil => rfl
    | cons c rest => exact trimStart_cons_of_not_blank (flush c rfl)
  rw [splitWord, List.append_assoc, List.takeWhile_append_of_pos kept,
    List.dropWhile_append_of_pos kept, ends.1, ends.2, start, List.append_nil]

/-- A text that does not begin with a blank begins with a word. -/
theorem IsSplit.ne_nil (split : IsSplit t word gap rest) (inked : Text.blank t = false)
    (flush : ∀ c ∈ t.head?, isBlank c = false) : word ≠ [] := by
  rintro rfl
  obtain ⟨rfl, -, blank, -, stops⟩ := split
  cases gap with
  | nil =>
    obtain rfl := stops rfl
    nomatch inked
  | cons c gap =>
    rw [blank_cons, Bool.and_eq_true] at blank
    exact absurd blank.1 (by simp [flush c rfl])

/-- The words of a split text are its first word, unless that is empty, and those of the
remainder. -/
theorem IsSplit.words_eq (split : IsSplit t word gap rest) :
    words t = [word].filter (· ≠ []) ++ words rest := by
  obtain ⟨rfl, visible, blank, -, stops⟩ := split
  rw [← words_of_visible visible]
  cases gap with
  | nil =>
    obtain rfl := stops rfl
    simp
  | cons c gap =>
    rw [blank_cons, Bool.and_eq_true] at blank
    rw [List.append_assoc, List.cons_append, words_append_cons blank.1,
      words_blank_append blank.2]

/-- The remainder stands at the end of the text as it stands by itself. -/
theorem IsSplit.suffix (split : IsSplit t word gap rest) : rest <:+ t :=
  ⟨word ++ gap, split.eq.symm⟩

end DocMarkdown.Text
