import DocMarkdown.Proofs.Text.Stretches
import DocMarkdown.Proofs.Text.Words

/-!
# What the fields of a text are

A text begins with a field without blanks, the first run of blanks ends that field, and so on, by
turns, as far as fields are asked for. What is then left of the text is a field too, whatever stands
in it. So the fields of a text say where its first runs of blanks are, and splitting the last field
once more goes on where the splitting was ended.

## Main definitions

* `Text.joinFields` — fields with a run of blanks behind each, and a remainder

## Main results

* `IsSplit.runs_eq` — the runs of blanks of a text that is split at its first word
* `splitWords_eq` — the words that are split off, and what they leave
* `exists_splitWords_add` — splitting off words in two stages
* `fields_split_exactly` — fields and runs of blanks make up a text, and may be split in stages
-/

namespace DocMarkdown.Text

variable {t word gap rest : Text}

/-- Fields with a run of blanks behind each, and a remainder. -/
def joinFields (words gaps : List Text) (rest : Text) : Text :=
  (List.zipWith (· ++ ·) words gaps).flatten ++ rest

@[simp] theorem joinFields_cons (word gap : Text) (words gaps : List Text) (rest : Text) :
    joinFields (word :: words) (gap :: gaps) rest = word ++ gap ++ joinFields words gaps rest := by
  simp [joinFields]

/-- The runs of blanks of a text that is split at its first word are the blanks behind that word,
unless there are none, and those of the remainder. -/
theorem IsSplit.runs_eq (split : IsSplit t word gap rest) :
    runs isBlank t = [gap].filter (· ≠ []) ++ runs isBlank rest := by
  obtain ⟨rfl, visible, blank, flush, stops⟩ := split
  rw [List.append_assoc]
  by_cases none : gap = []
  · obtain rfl := stops none
    have whole : runs isBlank (word ++ []) = runs isBlank [] :=
      runs_append_of_outside visible (by simp)
    rw [none, List.nil_append, whole]
    rfl
  · have run : IsStretch isBlank true gap rest := ⟨none, blank_iff.mp blank, flush⟩
    have behind : ∀ c ∈ (gap ++ rest).head?, isBlank c = true := by
      intro c hc
      have begins := run.any_head?
      rwa [Option.mem_def.mp hc] at begins
    rw [runs_append_of_outside visible behind, run.runs_eq]
    simp [none]

/-- Nothing is left to be split in the empty text. -/
theorem splitWords_nil (count : Nat) : splitWords count [] = List.replicate (count + 1) [] := by
  induction count with
  | zero => rfl
  | succ count ih =>
    rw [splitWords, splitWord, List.takeWhile_nil, List.dropWhile_nil, trimStart_nil, ih]
    rfl

/-- As many words are split off as there are runs of blanks to end them, each with the blanks behind
it; the next field is the remainder, and all fields after it are empty. -/
theorem splitWords_eq (count : Nat) (t : Text) :
    ∃ words rest, words.length = min count (runs isBlank t).length ∧
      splitWords count t = words ++ rest :: List.replicate (count - words.length) [] ∧
      t = joinFields words ((runs isBlank t).take words.length) rest ∧
      ∀ word ∈ words, ∀ c ∈ word, isBlank c = false := by
  induction count generalizing t with
  | zero => exact ⟨[], t, by simp, rfl, rfl, nofun⟩
  | succ count ih =>
    obtain ⟨gap, split⟩ := isSplit_splitWord t
    rw [splitWords]
    generalize splitWord t = parts at split ⊢
    obtain ⟨word, behind⟩ := parts
    dsimp only at split ⊢
    have runs_eq := split.runs_eq
    by_cases none : gap = []
    · -- No blank ends the word, so it is the remainder, and nothing is left for other fields.
      obtain rfl := split.stops none
      have whole := split.eq
      simp only [none, List.append_nil] at runs_eq whole
      refine ⟨[], word, ?_, ?_, whole, nofun⟩
      · rw [runs_eq]
        simp
      · rw [splitWords_nil]
        rfl
    · rw [List.filter_cons_of_pos (by simpa using none), List.filter_nil,
        List.singleton_append] at runs_eq
      obtain ⟨words, rest, length_eq, fields_eq, text_eq, visible⟩ := ih behind
      refine ⟨word :: words, rest, ?_, ?_, ?_, ?_⟩
      · rw [runs_eq, List.length_cons, List.length_cons]
        omega
      · rw [fields_eq, List.length_cons, Nat.add_sub_add_right]
        rfl
      · rw [runs_eq, List.length_cons, List.take_succ_cons, joinFields_cons, ← text_eq]
        exact split.eq
      · exact List.forall_mem_cons.mpr ⟨split.visible, visible⟩

/-- Words may be split off in two stages: the second goes on with what the first has left. -/
theorem exists_splitWords_add (first second : Nat) (t : Text) :
    ∃ words rest, words.length = first ∧ splitWords first t = words ++ [rest] ∧
      splitWords (first + second) t = words ++ splitWords second rest := by
  induction first generalizing t with
  | zero => exact ⟨[], t, rfl, rfl, by rw [Nat.zero_add, List.nil_append]⟩
  | succ first ih =>
    obtain ⟨words, rest, length_eq, first_eq, both_eq⟩ := ih (splitWord t).2
    refine ⟨(splitWord t).1 :: words, rest, by rw [List.length_cons, length_eq], ?_, ?_⟩
    · rw [splitWords, first_eq, List.cons_append]
    · rw [Nat.succ_add_eq_add_succ, Nat.add_succ, splitWords, both_eq, List.cons_append]

/-- A bounded split is exact. There are as many fields as are asked for, at least one. The text is
made up, by turns, of the first fields, which hold no blanks, and its first maximal runs of blanks,
and then of one more field; there are as many of these runs as the text has, but fewer than fields.
All fields after these are empty. And splitting in stages is splitting at once: where `m` fields are
asked for in the place of the last, they are the fields of the last. -/
theorem fields_split_exactly (limit : Nat) (t : Text) :
    (fields limit t).length = max limit 1 ∧
    (∃ words rest,
      words.length = min (max limit 1 - 1) (runs isBlank t).length ∧
      fields limit t = words ++ rest :: List.replicate (max limit 1 - 1 - words.length) [] ∧
      t = joinFields words ((runs isBlank t).take words.length) rest ∧
      ∀ word ∈ words, ∀ c ∈ word, isBlank c = false) ∧
    ∀ p m : Nat, 1 ≤ m → ∃ words last, words.length = p ∧
      fields (p + 1) t = words ++ [last] ∧ fields (p + m) t = words ++ fields m last := by
  refine ⟨length_fields limit t, ?_, ?_⟩
  · have count : max limit 1 - 1 = limit - 1 := by omega
    rw [count]
    exact splitWords_eq (limit - 1) t
  · intro p m some
    obtain ⟨words, last, length_eq, first_eq, both_eq⟩ := exists_splitWords_add p (m - 1) t
    refine ⟨words, last, length_eq, first_eq, ?_⟩
    have count : p + m - 1 = p + (m - 1) := by omega
    rw [fields, fields, count, both_eq]

/-- A text that begins with a blank outside ASCII, ends with a space and has a run of different
blanks inside, in two stages. -/
theorem fields_split_exactly_blanks :
    1 ≤ 2 ∧ runs isBlank "\u00a0int \r\n x ".toList = ["\u00a0", " \r\n ", " "].map String.toList ∧
      fields 3 "\u00a0int \r\n x ".toList = ["", "int", "x "].map String.toList ∧
      ∃ words last, words.length = 1 ∧
        fields 2 "\u00a0int \r\n x ".toList = words ++ [last] ∧
        fields (1 + 2) "\u00a0int \r\n x ".toList = words ++ fields 2 last := by
  have staged : 1 ≤ 2 := by decide
  exact ⟨staged, by decide, by decide, (fields_split_exactly 3 _).2.2 1 2 staged⟩

end DocMarkdown.Text
