import DocMarkdown.Proofs.Comment.Prose

/-!
# Delimiters in the place of code marks

Code may be marked in prose, or delimited as in Markdown. When marks become delimiters does not
matter to what works around both: what leaves them alone, and treats apart what stands before them
and behind. The spacing of prose does so as it concerns blanks, trimming as it concerns the ends,
and paragraph marks are replaced around code marks as no two marks overlap.

## Main definitions

* `codeMarksIn` — the code marks in a text
* `delimit` — a text with delimiters in the place of its first code marks
* `WorksAround` — a function that leaves code marks and delimiters alone

## Main results

* `codeMarksIn_delimit` — the marks that are replaced are the first ones
* `delimit_append_cons` — at a boundary, the marks in front are the first to be replaced
* `WorksAround.delimit_comm` — marks may be replaced before or after
* `worksAround_of_actsOnBlanks`, `delimit_trim`, `worksAround_breakParagraphs` — what works so
-/

namespace DocMarkdown

variable {a b t m : Text} {d : Char} {n : ℕ} {f : Text → Text}

namespace Description

/-- What marks code, in small letters. -/
def codeMarks : List Text := [codeOpening, codeClosing]

theorem areBracketed_codeMarks : Text.AreBracketed codeMarks :=
  ⟨by decide, by decide, by decide, by decide⟩

/-- The code marks in a text, as they are spelled there. -/
def codeMarksIn (t : Text) : List Text := Text.marksIn codeMarks t

theorem code_induction {motive : Text → Prop} (plain : ∀ a, codeMarksIn a = [] → motive a)
    (marked : ∀ a m b, codeMarksIn a = [] → Text.IsMark codeMarks m → motive b →
      motive (a ++ m ++ b)) (t : Text) : motive t :=
  areBracketed_codeMarks.marks_induction plain marked t

/-- Drops a code mark, opening or closing. -/
def dropCode? (t : Text) : Option Text :=
  (Text.dropFolded? codeOpening t).or (Text.dropFolded? codeClosing t)

theorem drops_dropCode? : Text.Drops dropCode? codeMarks :=
  Text.drops_dropFolded?_or areBracketed_codeMarks

/-- A text with delimiters in the place of its first code marks. -/
def delimit : ℕ → Text → Text
  | 0, t => t
  | n + 1, t =>
    match Text.cutWith dropCode? t with
    | none => t
    | some (before, after) => before ++ codeMark ++ delimit n after

/-! ### Delimiters -/

theorem isBoundary_delimiter : Text.IsBoundary codeMarks '`' :=
  .of_absent rfl (by decide)

theorem append_codeMark_append (a b : Text) : a ++ codeMark ++ b = a ++ '`' :: b := by
  simp [codeMark]

theorem delimit_of_free (free : codeMarksIn t = []) (n : ℕ) : delimit n t = t := by
  cases n with
  | zero => rfl
  | succ n => rw [delimit, areBracketed_codeMarks.cutWith_of_marksIn_eq_nil drops_dropCode? free]

/-- The first mark is the first to be replaced. -/
theorem delimit_append_mark_append (free : codeMarksIn a = []) (hm : Text.IsMark codeMarks m)
    (n : ℕ) (b : Text) : delimit (n + 1) (a ++ m ++ b) = a ++ codeMark ++ delimit n b := by
  rw [delimit, areBracketed_codeMarks.cutWith_append_mark_append drops_dropCode? free hm]

theorem codeMarksIn_append_mark_append (hm : Text.IsMark codeMarks m) (a b : Text) :
    codeMarksIn (a ++ m ++ b) = codeMarksIn a ++ m :: codeMarksIn b :=
  areBracketed_codeMarks.marksIn_append_mark_append hm a b

theorem codeMarksIn_append_cons (boundary : Text.IsBoundary codeMarks d) (apart : d ≠ '<')
    (a b : Text) : codeMarksIn (a ++ d :: b) = codeMarksIn a ++ codeMarksIn b := by
  have single : '<' ∉ [d] := by simpa using Ne.symm apart
  rw [codeMarksIn, areBracketed_codeMarks.marksIn_append_cons boundary]
  exact congrArg _ (areBracketed_codeMarks.marksIn_append_of_not_mem single b)

theorem codeMarksIn_append_codeMark_append (a b : Text) :
    codeMarksIn (a ++ codeMark ++ b) = codeMarksIn a ++ codeMarksIn b := by
  rw [append_codeMark_append, codeMarksIn_append_cons isBoundary_delimiter (by decide)]

/-- The marks that are replaced are the first ones, and no others are made or lost. -/
theorem codeMarksIn_delimit (n : ℕ) (t : Text) :
    codeMarksIn (delimit n t) = (codeMarksIn t).drop n := by
  induction t using code_induction generalizing n with
  | plain a free => rw [delimit_of_free free, free, List.drop_nil]
  | marked a m b free hm ih =>
    cases n with
    | zero => rfl
    | succ n =>
      rw [delimit_append_mark_append free hm, codeMarksIn_append_codeMark_append, ih,
        codeMarksIn_append_mark_append hm, free]
      rfl

/-- Replacing marks passes over what cutting passes over. -/
theorem delimit_append (passed : Text.cutWith dropCode? (a ++ b) =
      (Text.cutWith dropCode? b).map fun (before, after) => (a ++ before, after)) (n : ℕ) :
    delimit n (a ++ b) = a ++ delimit n b := by
  cases n with
  | zero => rfl
  | succ n =>
    rw [delimit, passed, delimit]
    cases Text.cutWith dropCode? b with
    | none => rfl
    | some cutAt => simp only [Option.map_some, List.append_assoc]

theorem dropCode?_of_ne (hd : d ≠ '<') : dropCode? (d :: t) = none := by
  rw [dropCode?, codeOpening, codeClosing, Text.dropFolded?_of_ne hd, Text.dropFolded?_of_ne hd]
  rfl

theorem delimit_append_of_not_mem (absent : '<' ∉ a) (n : ℕ) (b : Text) :
    delimit n (a ++ b) = a ++ delimit n b := by
  refine delimit_append (Text.cutWith_append (fun c hc u => dropCode?_of_ne ?_) b) n
  rintro rfl
  exact absent hc

/-- At a boundary, the marks in front are the first to be replaced. -/
theorem delimit_append_cons (boundary : Text.IsBoundary codeMarks d) (apart : d ≠ '<') (n : ℕ)
    (a b : Text) :
    delimit n (a ++ d :: b) = delimit n a ++ d :: delimit (n - (codeMarksIn a).length) b := by
  have single : '<' ∉ [d] := by simpa using Ne.symm apart
  induction a using code_induction generalizing n with
  | plain a free =>
    have passed := areBracketed_codeMarks.cutWith_append_cons drops_dropCode? boundary free b
    rw [delimit_append passed, delimit_of_free free, free]
    exact congrArg _ (delimit_append_of_not_mem single n b)
  | marked a m q free hm ih =>
    cases n with
    | zero => simp [delimit]
    | succ n =>
      rw [List.append_assoc _ q, delimit_append_mark_append free hm,
        delimit_append_mark_append free hm, ih, codeMarksIn_append_mark_append hm, free,
        List.nil_append, List.length_cons, Nat.add_sub_add_right,
        List.append_assoc _ (delimit n q)]

theorem mem_of_mem_delimit {c : Char} (h : c ∈ delimit n t) : c ∈ t ∨ c = '`' := by
  induction t using code_induction generalizing n with
  | plain a free => exact Or.inl (delimit_of_free free n ▸ h)
  | marked a m b free hm ih =>
    cases n with
    | zero => exact Or.inl h
    | succ n =>
      rw [delimit_append_mark_append free hm, append_codeMark_append, List.mem_append,
        List.mem_cons] at h
      rcases h with h | h | h
      · exact Or.inl (by simp [h])
      · exact Or.inr h
      · exact (ih h).imp_left fun inside => by simp [inside]

/-- Nothing is replaced, or a delimiter stands behind the text before the first mark. -/
theorem delimit_eq_or (n : ℕ) (t : Text) :
    delimit n t = t ∨ ∃ a u v, t = a ++ u ∧ delimit n t = a ++ '`' :: v := by
  cases n with
  | zero => exact Or.inl rfl
  | succ n =>
    rcases areBracketed_codeMarks.marksIn_cases t with free | ⟨a, m, b, free, hm, rfl⟩
    · exact Or.inl (delimit_of_free free _)
    · refine Or.inr ⟨a, m ++ b, delimit n b, List.append_assoc a m b, ?_⟩
      rw [delimit_append_mark_append free hm, append_codeMark_append]

/-- A text begins as before when marks are replaced, or with a delimiter. -/
theorem head?_delimit {c : Char} (h : c ∈ (delimit n t).head?) : c ∈ t.head? ∨ c = '`' := by
  rcases delimit_eq_or n t with same | ⟨a, u, v, rfl, same⟩
  · exact Or.inl (same ▸ h)
  · rw [same] at h
    cases a with
    | nil => exact Or.inr (Option.some.inj h).symm
    | cons d a => exact Or.inl h

theorem blank_delimit (visible : Text.blank t = false) (n : ℕ) :
    Text.blank (delimit n t) = false := by
  rcases delimit_eq_or n t with same | ⟨a, u, v, -, same⟩
  · rw [same, visible]
  · simp [same, Text.isBlank]

/-! ### What leaves marks and delimiters alone -/

/-- A function that leaves code marks and delimiters alone, and works apart on what is before and
behind them. -/
structure WorksAround (f : Text → Text) : Prop where
  append_mark_append {a m b : Text} : Text.IsMark codeMarks m → f (a ++ m ++ b) = f a ++ m ++ f b
  append_delimiter_append {a b : Text} : f (a ++ codeMark ++ b) = f a ++ codeMark ++ f b
  free {a : Text} : codeMarksIn a = [] → codeMarksIn (f a) = []

namespace WorksAround

theorem codeMarksIn_eq (works : WorksAround f) (t : Text) : codeMarksIn (f t) = codeMarksIn t := by
  induction t using code_induction with
  | plain a free => rw [works.free free, free]
  | marked a m b free hm ih =>
    rw [works.append_mark_append hm, codeMarksIn_append_mark_append hm, works.free free, ih,
      codeMarksIn_append_mark_append hm, free]

/-- Marks may be replaced before or after. -/
theorem delimit_comm (works : WorksAround f) (n : ℕ) (t : Text) :
    f (delimit n t) = delimit n (f t) := by
  induction t using code_induction generalizing n with
  | plain a free => rw [delimit_of_free free, delimit_of_free (works.free free)]
  | marked a m b free hm ih =>
    cases n with
    | zero => rfl
    | succ n =>
      rw [delimit_append_mark_append free hm, works.append_delimiter_append, ih,
        works.append_mark_append hm, delimit_append_mark_append (works.free free) hm]

end WorksAround

theorem worksAround_of_actsOnBlanks (acts : Text.ActsOnBlanks f) : WorksAround f where
  append_mark_append hm := acts.append_mark_append (areBracketed_codeMarks.ne_nil hm)
    (areBracketed_codeMarks.isBlank_eq_false hm)
  append_delimiter_append {a b} := by
    rw [append_codeMark_append, append_codeMark_append, acts.append_cons (by decide)]
  free {a} free := by
    rw [codeMarksIn, areBracketed_codeMarks.marksIn_eq_nil_iff] at free ⊢
    intro m hm
    rw [acts.infix_iff (areBracketed_codeMarks.ne_nil hm)
      (areBracketed_codeMarks.isBlank_eq_false hm)]
    exact free m hm

/-! ### Trimming -/

theorem isSolid_codeMark : Text.IsSolid codeMark :=
  Text.isSolid_of_visible (List.cons_ne_nil _ _) (List.forall_mem_singleton.mpr rfl)

theorem codeMarksIn_eq_nil_of_isInfix (inside : a <:+: t) (free : codeMarksIn t = []) :
    codeMarksIn a = [] := by
  rw [codeMarksIn, areBracketed_codeMarks.marksIn_eq_nil_iff] at free ⊢
  exact fun m hm inner => free m hm (inner.trans inside)

theorem delimit_trimEnd (n : ℕ) (t : Text) :
    Text.trimEnd (delimit n t) = delimit n (Text.trimEnd t) := by
  induction t using code_induction generalizing n with
  | plain a free =>
    have shorter : Text.trimEnd a <:+: a := (List.rdropWhile_prefix Text.isBlank a).isInfix
    rw [delimit_of_free free, delimit_of_free (codeMarksIn_eq_nil_of_isInfix shorter free)]
  | marked a m b free hm ih =>
    cases n with
    | zero => rfl
    | succ n =>
      have solid := areBracketed_codeMarks.isSolid hm
      rw [delimit_append_mark_append free hm, List.append_assoc, List.append_assoc,
        isSolid_codeMark.trimEnd_append, solid.trimEnd_append, ih, ← List.append_assoc,
        ← List.append_assoc, delimit_append_mark_append free hm]

/-- Blanks at the ends do not matter to marks. -/
theorem delimit_trim (n : ℕ) (t : Text) : Text.trim (delimit n t) = delimit n (Text.trim t) := by
  rcases areBracketed_codeMarks.marksIn_cases t with free | ⟨a, m, b, free, hm, rfl⟩
  · have free' := codeMarksIn_eq_nil_of_isInfix (Text.trim_isInfix t) free
    rw [delimit_of_free free, delimit_of_free free']
  · cases n with
    | zero => rfl
    | succ n =>
      have solid := areBracketed_codeMarks.isSolid hm
      have free' : codeMarksIn (Text.trimStart a) = [] :=
        codeMarksIn_eq_nil_of_isInfix (List.dropWhile_suffix Text.isBlank).isInfix free
      rw [delimit_append_mark_append free hm, List.append_assoc, List.append_assoc,
        isSolid_codeMark.trim_append_append, solid.trim_append_append, delimit_trimEnd,
        ← List.append_assoc, ← List.append_assoc, delimit_append_mark_append free' hm]

theorem codeMarksIn_append_blank (blank : Text.blank b = true) (a : Text) :
    codeMarksIn (a ++ b) = codeMarksIn a := by
  cases b with
  | nil => rw [List.append_nil]
  | cons d b =>
    have absent := Text.bracket_not_mem_of_blank blank
    rw [List.mem_cons, not_or] at absent
    rw [Text.blank_cons, Bool.and_eq_true] at blank
    have boundary := areBracketed_codeMarks.isBoundary_of_isBlank blank.1
    have free : codeMarksIn b = [] := areBracketed_codeMarks.marksIn_of_not_mem absent.2
    rw [codeMarksIn_append_cons boundary (Ne.symm absent.1), free, List.append_nil]

theorem codeMarksIn_trim (t : Text) : codeMarksIn (Text.trim t) = codeMarksIn t := by
  obtain ⟨a, b, ha, hb, whole⟩ := Text.exists_eq_trim t
  have same := congrArg codeMarksIn whole
  rw [codeMarksIn_append_blank hb] at same
  exact (same.trans (areBracketed_codeMarks.marksIn_append_of_not_mem
    (Text.bracket_not_mem_of_blank ha) (Text.trim t))).symm

/-! ### Paragraph marks -/

/-- No paragraph mark stands where a code mark does. -/
theorem dropParagraph?_codeMark_append (hm : Text.IsMark codeMarks m) (b : Text) :
    dropParagraph? (m ++ b) = none := by
  have together : Text.AreBracketed (paragraphMarks ++ codeMarks) :=
    ⟨by decide, by decide, by decide, by decide⟩
  rw [Option.eq_none_iff_forall_ne_some]
  intro rest found
  obtain ⟨mark, isMark, whole⟩ := (drops_dropParagraph? _ _).mp found
  have same := together.eq_of_prefix (List.mem_append_left _ isMark) (List.mem_append_right _ hm)
    ⟨rest, whole.symm⟩ (List.prefix_append m b)
  have apart : ∀ x ∈ paragraphMarks, x ∉ codeMarks := by decide
  exact apart _ isMark (same ▸ hm)

theorem breakParagraphs_codeMark_append (hm : Text.IsMark codeMarks m) (b : Text) :
    breakParagraphs (m ++ b) = m ++ breakParagraphs b := by
  have none := dropParagraph?_codeMark_append hm b
  obtain ⟨ms, rfl, absent⟩ := areBracketed_codeMarks.exists_eq_cons hm
  have passed : ∀ c ∈ ms, ∀ u, dropParagraph? (c :: u) = Option.none := by
    intro c hc u
    apply dropParagraph?_of_ne
    rintro rfl
    exact absent hc
  refine Text.replaceWith_append ?_
  rw [List.cons_append] at none ⊢
  rw [Text.cutWith, none, Text.cutWith_append passed, Option.map_map]
  rfl

theorem worksAround_breakParagraphs : WorksAround breakParagraphs where
  append_mark_append {a m b} hm := by
    have rest := breakParagraphs_codeMark_append hm b
    obtain ⟨ms, rfl, -⟩ := areBracketed_codeMarks.exists_eq_cons hm
    rw [List.append_assoc, List.append_assoc, ← rest]
    exact areBracketed_paragraphMarks.replaceWith_append_cons drops_dropParagraph?
      areBracketed_paragraphMarks.isBoundary a _
  append_delimiter_append {a b} := by
    have boundary : Text.IsBoundary paragraphMarks '`' := .of_absent rfl (by decide)
    have single : '<' ∉ codeMark := by decide
    rw [List.append_assoc, List.append_assoc, ← breakParagraphs_append single]
    exact areBracketed_paragraphMarks.replaceWith_append_cons drops_dropParagraph? boundary a _
  free {a} free := by
    have feed : Text.IsBoundary codeMarks '\n' :=
      areBracketed_codeMarks.isBoundary_of_isBlank (by decide)
    induction a using areBracketed_paragraphMarks.marks_induction with
    | plain a none =>
      have kept : breakParagraphs a = a := Text.replaceWith_of_none
        (areBracketed_paragraphMarks.cutWith_of_marksIn_eq_nil drops_dropParagraph? none)
      rwa [kept]
    | marked p mark q none isMark ih =>
      have broken : breakParagraphs (p ++ mark ++ q) =
          p ++ '\n' :: ([] ++ '\n' :: breakParagraphs q) :=
        (Text.replaceWith_of_some (areBracketed_paragraphMarks.cutWith_append_mark_append
          drops_dropParagraph? none isMark q)).trans (List.append_assoc _ _ _)
      have front : codeMarksIn p = [] := codeMarksIn_eq_nil_of_isInfix ⟨[], mark ++ q, by simp⟩ free
      have back : codeMarksIn q = [] := codeMarksIn_eq_nil_of_isInfix ⟨p ++ mark, [], by simp⟩ free
      rw [broken, codeMarksIn_append_cons feed (by decide),
        codeMarksIn_append_cons feed (by decide), front, ih back]
      exact areBracketed_codeMarks.marksIn_nil

end Description

end DocMarkdown
