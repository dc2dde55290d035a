import DocMarkdown.Letters.Lowercase

/-!
# Lowercase texts stay as they are

Lowercasing a text once is enough. The table of single characters never takes a character to one
that it would take further, and what becomes of a capital I with a dot or of a capital sigma is small
whatever stands around it.

## Main definitions

* `Run.avoids` — where one run takes its code points, another one holds none
* `Letters.IsSmall` — a character that is its own lowercase form

## Main results

* `Run.image?_eq_none_of_avoids` — what one run gives, a run that it avoids does not take further
* `isSmall_of_mem_lowercaseChar` — the lowercase form of a character is small
* `lowercase_lowercase` — lowercasing twice is lowercasing once
-/

namespace DocMarkdown

namespace Run

variable {run other : Run} {n m : Nat}

theorem image?_eq_some_iff :
    run.image? n = some m ↔
      run.first ≤ n ∧ n ≤ run.last ∧ (n - run.first) % run.step = 0 ∧
        n - run.first + run.target = m := by
  simp [image?, and_assoc]

theorem inverse_last : run.inverse.last = run.last - run.first + run.target := rfl

/-- Where a run takes its code points, another one holds none: one of the two ends before the other,
or they interleave in steps of two. -/
def avoids (run other : Run) : Bool :=
  run.inverse.last.blt other.first || other.last.blt run.target ||
    (run.step == 2 || run.first == run.last) && other.step == 2 &&
      (run.target + other.first) % 2 == 1

/-- What one run gives, a run that it avoids does not take further. -/
theorem image?_eq_none_of_avoids (avoids : run.avoids other = true)
    (image : run.image? n = some m) : other.image? m = none := by
  obtain ⟨above, below, even, rfl⟩ := image?_eq_some_iff.mp image
  refine Option.eq_none_iff_forall_ne_some.mpr fun further taken => ?_
  obtain ⟨above', below', even', -⟩ := image?_eq_some_iff.mp taken
  simp only [Run.avoids, Bool.or_eq_true, Bool.and_eq_true, Nat.blt_eq, beq_iff_eq] at avoids
  rcases avoids with (before | after) | ⟨⟨two | one, two'⟩, odd⟩
  · rw [inverse_last] at before
    omega
  · omega
  · rw [two] at even
    rw [two'] at even'
    omega
  · rw [two'] at even'
    omega

end Run

namespace Letters

variable {c d : Char} {t before : Text} {run : Run} {n m : Nat}

/-! ### Single characters -/

/-- A character that is its own lowercase form. -/
def IsSmall (c : Char) : Prop := lowercaseChar c = [c]

instance (c : Char) : Decidable (IsSmall c) := inferInstanceAs (Decidable (_ = _))

/-- No run of the table takes a character to one that the table takes further. -/
theorem all_avoids_lowercaseRuns :
    (lowercaseRuns.all fun run => lowercaseRuns.all run.avoids) = true := by decide +kernel

/-- The table leads to characters, and not to the capital I with a dot. -/
theorem isValidChar_of_mem_lowercaseRuns :
    ∀ run ∈ lowercaseRuns, run.avoids ⟨0x130, 0x130, 1, 0⟩ = true ∧
      (run.inverse.last < 0xD800 ∨ 0xDFFF < run.target ∧ run.inverse.last < 0x110000) := by
  decide +kernel

/-- The lowercase form of a character of ASCII is small. -/
theorem isSmall_toLower_of_lt : ∀ n < 0x80, IsSmall (Char.ofNat n).toLower := by decide

/-- A character that no run of the table holds is small, but for the capital I with a dot. -/
theorem isSmall_of_image?_eq_none (notDotted : c.toNat ≠ 0x130)
    (none : ∀ run ∈ lowercaseRuns, run.image? c.toNat = none) : IsSmall c := by
  rw [IsSmall, lowercaseChar]
  split
  · -- The capitals of ASCII are the first run of the table.
    have outside := none ⟨0x41, 0x5A, 1, 0x61⟩ List.mem_cons_self
    have same : c.toLower = c := dif_neg fun upper => by
      have taken : Run.image? ⟨0x41, 0x5A, 1, 0x61⟩ c.toNat = some (c.toNat - 0x41 + 0x61) :=
        Run.image?_eq_some_iff.mpr ⟨upper.1, upper.2, Nat.mod_one _, rfl⟩
      rw [outside] at taken
      cases taken
    rw [same]
  · rw [if_neg (by simpa using notDotted), List.findSome?_eq_none_iff.mpr none]
    rfl

/-- Where the table takes a character is small. -/
theorem isSmall_of_image? (member : run ∈ lowercaseRuns) (image : run.image? n = some m) :
    IsSmall (Char.ofNat m) := by
  obtain ⟨avoidsDotted, valid⟩ := isValidChar_of_mem_lowercaseRuns run member
  have code : (Char.ofNat m).toNat = m := by
    obtain ⟨above, below, -, rfl⟩ := Run.image?_eq_some_iff.mp image
    have inside : (n - run.first + run.target).isValidChar := by
      rw [Run.inverse_last] at valid
      rw [Nat.isValidChar]
      omega
    rw [Char.ofNat, dif_pos inside]
    rfl
  have avoids := List.all_eq_true.mp (List.all_eq_true.mp all_avoids_lowercaseRuns run member)
  refine isSmall_of_image?_eq_none ?_ fun other member' => ?_
  · rw [code]
    rintro rfl
    have kept := Run.image?_eq_none_of_avoids avoidsDotted image
    cases kept
  · rw [code]
    exact Run.image?_eq_none_of_avoids (avoids other member') image

/-- The lowercase form of a character is small. -/
theorem isSmall_of_mem_lowercaseChar (member : c ∈ lowercaseChar d) : IsSmall c := by
  rw [lowercaseChar] at member
  split at member
  · next ascii =>
    obtain rfl := List.mem_singleton.mp member
    exact Char.ofNat_toNat d ▸ isSmall_toLower_of_lt d.toNat ascii
  · split at member
    · rcases List.mem_cons.mp member with rfl | member
      · decide
      · obtain rfl := List.mem_singleton.mp member
        decide
    · next large notDotted =>
      obtain rfl := List.mem_singleton.mp member
      cases image : lowercaseRuns.findSome? (·.image? d.toNat) with
      | none =>
        exact isSmall_of_image?_eq_none (by simpa using notDotted)
          (List.findSome?_eq_none_iff.mp image)
      | some m =>
        obtain ⟨run, member, found⟩ := List.exists_of_findSome?_eq_some image
        exact isSmall_of_image? member found

/-! ### Texts -/

theorem isSmall_of_mem_lowercaseAfter (member : c ∈ lowercaseAfter before t) : IsSmall c := by
  induction t generalizing before with
  | nil => nomatch member
  | cons d rest ih =>
    rw [lowercaseAfter] at member
    rcases List.mem_append.mp member with first | others
    · split at first
      · obtain rfl := List.mem_singleton.mp first
        decide
      · exact isSmall_of_mem_lowercaseChar first
    · exact ih others

/-- A text of small characters is its own lowercase form, whatever it follows. -/
theorem lowercaseAfter_of_isSmall (small : ∀ c ∈ t, IsSmall c) : lowercaseAfter before t = t := by
  induction t generalizing before with
  | nil => rfl
  | cons d rest ih =>
    have own := small d List.mem_cons_self
    -- A capital sigma is not small, so no sigma is final.
    have noSigma : (d.toNat == 0x3A3) = false := by
      rw [beq_eq_false_iff_ne]
      intro sigma
      obtain rfl : d = 'Σ' := Char.toNat_inj.mp sigma
      exact absurd own (by decide)
    rw [lowercaseAfter, noSigma, Bool.false_and, if_neg Bool.false_ne_true,
      ih fun c member => small c (List.mem_cons_of_mem d member), own]
    rfl

/-- Lowercasing twice is lowercasing once. -/
theorem lowercase_lowercase (s : String) : lowercase (lowercase s) = lowercase s := by
  rw [lowercase, lowercase, String.toList_ofList,
    lowercaseAfter_of_isSmall fun _ => isSmall_of_mem_lowercaseAfter]

end Letters

end DocMarkdown
