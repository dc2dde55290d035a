import DocMarkdown.Proofs.Comment.Reading
import DocMarkdown.Proofs.Text.Brackets
import DocMarkdown.Proofs.Text.Joining
import DocMarkdown.Proofs.Text.Tidiness

/-!
# Descriptions of plain prose

Prose in which nothing is marked up but the ends of paragraphs has a plain description: the lines of
a paragraph run together, and an empty line stands between the paragraphs. Paragraph marks stand on
lines of their own, so the running text has them between spaces. They become line feeds, and then
the spaces next to these go.

How many paragraph marks stand in a row does not matter, and neither does where the first and the
last of them stand, as a description has no blanks at its ends and no two empty lines in a row.

## Main definitions

* `Description.IsParagraphMark` — a paragraph mark by itself, in either letter case
* `Description.IsPlain` — a line in which nothing is marked up
* `Description.paragraphs` — the lines of prose between paragraph marks
* `Description.joinParagraphs` — what paragraphs look like in a description

## Main results

* `breakParagraphs_append` — a paragraph mark after plain prose is the first to be replaced
* `actsOnBlanks_settle` — the spacing of a description concerns blanks only
* `description_of_plain` — the description of plain lines and paragraph marks
* `description_paragraphs`, `description_paragraph` — the description of plain paragraphs
-/

namespace DocMarkdown

variable {a t u mark : Text} {c : Char} {prose : List Text}

namespace Description

/-! ### Paragraph marks -/

/-- What marks paragraphs, in small letters. -/
def paragraphMarks : List Text := [paragraphMark, ['<', '/', 'p', '>']]

theorem areBracketed_paragraphMarks : Text.AreBracketed paragraphMarks :=
  ⟨by decide, by decide, by decide, by decide⟩

theorem drops_dropParagraph? : Text.Drops dropParagraph? paragraphMarks :=
  Text.drops_dropFolded?_or areBracketed_paragraphMarks

/-- A paragraph mark by itself, in either letter case. -/
def IsParagraphMark (t : Text) : Prop := Text.IsMark paragraphMarks t

instance : DecidablePred IsParagraphMark := fun _ => inferInstanceAs (Decidable (_ ∈ _))

theorem IsParagraphMark.ne_nil (h : IsParagraphMark mark) : mark ≠ [] :=
  areBracketed_paragraphMarks.ne_nil h

theorem IsParagraphMark.visible (h : IsParagraphMark mark) : ∀ c ∈ mark, Text.isBlank c = false :=
  areBracketed_paragraphMarks.isBlank_eq_false h

theorem dropParagraph?_of_ne (hc : c ≠ '<') : dropParagraph? (c :: t) = none := by
  rw [dropParagraph?, Text.dropFolded?_of_ne hc, Text.dropFolded?_of_ne hc]
  rfl

/-- Without the bracket no paragraph mark begins. -/
theorem breakParagraphs_append (h : '<' ∉ a) (t : Text) :
    breakParagraphs (a ++ t) = a ++ breakParagraphs t := by
  have passed : ∀ c ∈ a, ∀ u, dropParagraph? (c :: u) = none := by
    intro c hc u
    apply dropParagraph?_of_ne
    rintro rfl
    exact h hc
  exact Text.replaceWith_append (Text.cutWith_append passed t)

@[simp] theorem breakParagraphs_nil : breakParagraphs [] = [] := Text.replaceWith_of_none rfl

theorem IsParagraphMark.breakParagraphs_append (h : IsParagraphMark mark) (t : Text) :
    breakParagraphs (mark ++ t) = ['\n', '\n'] ++ breakParagraphs t := by
  have dropped := drops_dropParagraph?.mark_append h t
  obtain ⟨m, ms, rfl⟩ := List.exists_cons_of_ne_nil h.ne_nil
  refine Text.replaceWith_of_some (a := []) ?_
  rw [List.cons_append, Text.cutWith, ← List.cons_append, dropped]

/-! ### The spacing of a description -/

theorem head?_joinBreaks (t : Text) : (joinBreaks t).head? = t.head? := by
  cases t with
  | nil => rfl
  | cons c t =>
    rw [joinBreaks]
    split
    · next dropped =>
      -- A line feed is dropped before other line feeds.
      rw [Bool.and_eq_true, beq_iff_eq, List.isPrefixOf_iff_prefix] at dropped
      obtain ⟨rfl, u, same⟩ := dropped
      rw [← same]
      rfl
    · rfl

/-- Joining breaks acts on blanks only. -/
theorem actsOnBlanks_joinBreaks : Text.ActsOnBlanks joinBreaks := by
  have feeds : ∀ c, c = '\n' → Text.isBlank c = true := by
    rintro c rfl
    decide
  apply Text.actsOnBlanks_of_dropping (fun c kept => c == '\n' && ['\n', '\n'].isPrefixOf kept) rfl
    (fun _ _ => rfl)
  · intro c t dropped
    exact feeds c (beq_iff_eq.mp (Bool.and_eq_true_iff.mp dropped).1)
  · intro c
    exact Bool.and_false _
  · intro x a c b hc
    -- Two line feeds do not reach across a character that is not one.
    have absent : c ∉ ['\n', '\n'] := by
      intro inside
      have feed : c = '\n' := by simpa using inside
      rw [feeds c feed] at hc
      cases hc
    have same : ['\n', '\n'].isPrefixOf (a ++ c :: b) = ['\n', '\n'].isPrefixOf a := by
      rw [Bool.eq_iff_iff, List.isPrefixOf_iff_prefix, List.isPrefixOf_iff_prefix]
      exact Text.prefix_append_cons_iff absent
    rw [same]

/-- Prose without line feeds has no breaks to be joined. -/
theorem joinBreaks_of_not_mem (h : '\n' ∉ t) : joinBreaks t = t := by
  induction t with
  | nil => rfl
  | cons c t ih =>
    rw [List.mem_cons, not_or] at h
    have other : (c == '\n') = false := beq_eq_false_iff_ne.mpr (Ne.symm h.1)
    rw [joinBreaks, ih h.2, other]
    rfl

/-- One line feed more after two does not matter. -/
theorem joinBreaks_feeds (t : Text) :
    joinBreaks ('\n' :: '\n' :: '\n' :: t) = joinBreaks ('\n' :: '\n' :: t) := by
  have two : ['\n', '\n'].isPrefixOf (joinBreaks ('\n' :: '\n' :: t)) = true := by
    have begins := head?_joinBreaks ('\n' :: t)
    rw [joinBreaks]
    split
    · next dropped => exact (Bool.and_eq_true_iff.mp dropped).2
    · obtain ⟨u, same⟩ := List.head?_eq_some_iff.mp begins
      rw [same]
      rfl
  rw [joinBreaks, two]
  rfl

/-- The spacing of a description, whatever stands at its ends. -/
def settle (t : Text) : Text := joinBreaks (Text.spaced t)

/-- The spacing of a description concerns blanks only. -/
theorem actsOnBlanks_settle : Text.ActsOnBlanks settle :=
  actsOnBlanks_joinBreaks.comp Text.actsOnBlanks_spaced

theorem settle_trim (t : Text) : settle (Text.trim t) = joinBreaks (Text.tidy t) := rfl

/-- Spaces around an empty line go, and so does a second empty line. -/
theorem settle_breaks (t : Text) :
    settle ([' ', '\n', '\n'] ++ ([' ', '\n', '\n'] ++ t)) = settle ([' ', '\n', '\n'] ++ t) := by
  have joined (u : Text) : joinBreaks ('\n' :: '\n' :: '\n' :: '\n' :: u) =
      joinBreaks ('\n' :: '\n' :: u) := by
    rw [joinBreaks_feeds, joinBreaks_feeds]
  -- Both are computed up to `t`: the spaces go, and the line feeds stay.
  exact joined _

theorem spanCode_of_none (h : cutCode t = none) : spanCode t = t := by
  rw [spanCode]
  split
  · rfl
  · next found => simp [h] at found

/-- Without the bracket no code mark begins. -/
theorem spanCode_of_not_mem (h : '<' ∉ t) : spanCode t = t := by
  have passed : ∀ c ∈ t, ∀ u, Text.dropFolded? codeOpening (c :: u) = none := by
    intro c hc u
    apply Text.dropFolded?_of_ne
    rintro rfl
    exact h hc
  apply spanCode_of_none
  rw [cutCode, Text.cutWith_eq_none passed]
  rfl

/-! ### Plain lines -/

/-- A line that says something, and in which nothing is marked up. -/
structure IsPlain (t : Text) : Prop where
  visible : Text.blank t = false
  bracket_not_mem : '<' ∉ t
  feed_not_mem : '\n' ∉ t

namespace IsPlain

theorem isSolid_tidy (h : IsPlain t) : Text.IsSolid (Text.tidy t) := by
  refine Text.isSolid_of_trim_eq_self ?_ (Text.trim_tidy t)
  rw [Text.tidy_eq, Ne, Text.actsOnBlanks_spaced.eq_nil_iff]
  exact (Text.isSolid_trim h.visible).ne_nil

theorem bracket_not_mem_tidy (h : IsPlain t) : '<' ∉ Text.tidy t :=
  fun inside => h.bracket_not_mem ((Text.tidy_sublist t).subset inside)

theorem settle_tidy (h : IsPlain t) : settle (Text.tidy t) = Text.tidy t := by
  have free : '\n' ∉ Text.tidy t :=
    fun inside => h.feed_not_mem ((Text.tidy_sublist t).subset inside)
  rw [settle, (Text.isTidy_tidy t).spaced_eq_self, joinBreaks_of_not_mem free]

theorem not_isParagraphMark (h : IsPlain t) : ¬ IsParagraphMark (Text.trim t) := by
  intro mark
  obtain ⟨ms, same, -⟩ := areBracketed_paragraphMarks.exists_eq_cons mark
  exact h.bracket_not_mem (Text.mem_of_mem_trim (same ▸ List.mem_cons_self))

end IsPlain

/-- What a line of prose is in running text in which no paragraph is marked. -/
def piece (t : Text) : Text := if IsParagraphMark (Text.trim t) then ['\n', '\n'] else Text.tidy t

theorem IsPlain.piece_eq (h : IsPlain t) : piece t = Text.tidy t := if_neg h.not_isParagraphMark

theorem breakParagraphs_tidy_append (h : IsParagraphMark (Text.trim t) ∨ IsPlain t) (u : Text) :
    breakParagraphs (Text.tidy t ++ u) = piece t ++ breakParagraphs u := by
  rcases h with mark | plain
  · rw [Text.tidy_eq, Text.actsOnBlanks_spaced.eq_self mark.visible, mark.breakParagraphs_append,
      piece, if_pos mark]
  · rw [breakParagraphs_append plain.bracket_not_mem_tidy, plain.piece_eq]

/-- In running text, paragraph marks become empty lines. -/
theorem breakParagraphs_running (h : ∀ t ∈ prose, IsParagraphMark (Text.trim t) ∨ IsPlain t) :
    breakParagraphs ([' '].intercalate (prose.map Text.tidy)) =
      [' '].intercalate (prose.map piece) := by
  have space : '<' ∉ [' '] := by decide
  induction prose with
  | nil => exact breakParagraphs_nil
  | cons t prose ih =>
    have first := breakParagraphs_tidy_append (h t List.mem_cons_self)
    have others := ih fun u hu => h u (List.mem_cons_of_mem t hu)
    cases prose with
    | nil => simpa using first []
    | cons t' prose =>
      simp only [List.map_cons, List.intercalate_cons_cons, List.append_assoc] at others ⊢
      rw [first, breakParagraphs_append space, others]

/-- The description of plain lines and paragraph marks is a matter of spacing. -/
theorem description_eq_settle (h : ∀ t ∈ prose, IsParagraphMark (Text.trim t) ∨ IsPlain t) :
    description prose = settle (Text.trim ([' '].intercalate (prose.map piece))) := by
  have unmarked : '<' ∉ settle (Text.trim ([' '].intercalate (prose.map piece))) := by
    rw [actsOnBlanks_settle.mem_iff (by decide)]
    intro inside
    rcases Text.mem_or_mem_of_mem_intercalate (Text.mem_of_mem_trim inside) with
      inside | ⟨_, hp, inside⟩
    · exact absurd inside (by decide)
    · obtain ⟨t, ht, rfl⟩ := List.mem_map.mp hp
      rcases h t ht with mark | plain
      · rw [piece, if_pos mark] at inside
        exact absurd inside (by decide)
      · rw [plain.piece_eq] at inside
        exact plain.bracket_not_mem_tidy inside
  rw [description, ofProse, breakParagraphs_running h, ← settle_trim, spanCode_of_not_mem unmarked]

/-! ### Line by line -/

/-- What a description goes on with behind a plain line. -/
def continuation (prose : List Text) : Text :=
  Text.trimEnd (settle ((prose.map piece).flatMap ([' '] ++ ·)))

/-- A paragraph mark in front does not matter. -/
theorem settle_running_mark (mark : IsParagraphMark (Text.trim t)) (prose : List Text) :
    settle (Text.trim ([' '].intercalate ((t :: prose).map piece))) =
      settle (Text.trim ([' '].intercalate (prose.map piece))) := by
  have blank : Text.blank (piece t) = true := by
    rw [piece, if_pos mark]
    decide
  cases prose with
  | nil =>
    rw [List.map_singleton, List.intercalate_singleton, Text.trim_of_blank blank]
    rfl
  | cons t' prose =>
    rw [List.map_cons, List.map_cons, List.intercalate_cons_cons, ← List.map_cons,
      Text.trim_blank_append (by simp [blank, Text.isBlank])]

theorem settle_running_plain (plain : IsPlain t) (prose : List Text) :
    settle (Text.trim ([' '].intercalate ((t :: prose).map piece))) =
      Text.tidy t ++ continuation prose := by
  rw [List.map_cons, Text.intercalate_cons, plain.piece_eq, ← actsOnBlanks_settle.trim_comm,
    actsOnBlanks_settle.append_of_isSolid_left plain.isSolid_tidy, plain.settle_tidy,
    plain.isSolid_tidy.trim_append]
  rfl

theorem continuation_nil : continuation [] = [] := rfl

theorem continuation_plain (plain : IsPlain t) (prose : List Text) :
    continuation (t :: prose) = [' '] ++ (Text.tidy t ++ continuation prose) := by
  have space : settle [' '] = [' '] := by decide
  rw [continuation, List.map_cons, List.flatMap_cons, plain.piece_eq, List.append_assoc,
    actsOnBlanks_settle.append_append_of_isSolid plain.isSolid_tidy, plain.settle_tidy, space,
    plain.isSolid_tidy.trimEnd_append]
  rfl

theorem continuation_mark (mark : IsParagraphMark (Text.trim t)) : continuation [t] = [] := by
  rw [continuation, List.map_singleton, List.flatMap_singleton, piece, if_pos mark]
  decide

theorem continuation_mark_mark (mark : IsParagraphMark (Text.trim t))
    (mark' : IsParagraphMark (Text.trim u)) (prose : List Text) :
    continuation (t :: u :: prose) = continuation (u :: prose) := by
  have same (v : Text) : settle ([' '] ++ ['\n', '\n'] ++ ([' '] ++ ['\n', '\n'] ++ v)) =
      settle ([' '] ++ ['\n', '\n'] ++ v) := settle_breaks v
  simp only [continuation, List.map_cons, List.flatMap_cons, piece, if_pos mark, if_pos mark', same]

theorem continuation_mark_plain (mark : IsParagraphMark (Text.trim t)) (plain : IsPlain u)
    (prose : List Text) :
    continuation (t :: u :: prose) = ['\n', '\n'] ++ (Text.tidy u ++ continuation prose) := by
  have breaks : settle ([' '] ++ ['\n', '\n'] ++ [' ']) = ['\n', '\n'] := by decide
  rw [continuation, List.map_cons, List.map_cons, List.flatMap_cons, List.flatMap_cons,
    plain.piece_eq, piece, if_pos mark, List.append_assoc [' '] (Text.tidy u), ← List.append_assoc,
    actsOnBlanks_settle.append_append_of_isSolid plain.isSolid_tidy, plain.settle_tidy, breaks,
    plain.isSolid_tidy.trimEnd_append]
  rfl

/-! ### Paragraphs -/

/-- The lines of prose between paragraph marks, where there are any. -/
def paragraphs (prose : List Text) : List (List Text) :=
  (prose.splitOnP fun t => IsParagraphMark (Text.trim t)).filter (· ≠ [])

/-- What paragraphs look like in a description: their lines run together, and an empty line stands
between them. -/
def joinParagraphs (ps : List (List Text)) : Text :=
  ['\n', '\n'].intercalate (ps.map fun p => [' '].intercalate (p.map Text.tidy))

/-- The paragraphs on the two sides of a paragraph mark. -/
theorem paragraphs_append_cons (mark : IsParagraphMark (Text.trim t)) (front back : List Text) :
    paragraphs (front ++ t :: back) = paragraphs front ++ paragraphs back := by
  rw [paragraphs, List.splitOnP_append_cons front back (decide_eq_true mark), List.filter_append]
  rfl

/-- Lines of which none marks a paragraph make up one. -/
theorem paragraphs_of_not_isParagraphMark (nonempty : prose ≠ [])
    (h : ∀ t ∈ prose, ¬ IsParagraphMark (Text.trim t)) : paragraphs prose = [prose] := by
  rw [paragraphs, List.splitOnP_eq_singleton fun t ht => decide_eq_false (h t ht)]
  simp [nonempty]

/-- Paragraphs with a paragraph mark between each two of them are found again. -/
theorem paragraphs_intercalate {ps : List (List Text)} (inhabited : [] ∉ ps)
    (mark : IsParagraphMark (Text.trim t))
    (h : ∀ p ∈ ps, ∀ u ∈ p, ¬ IsParagraphMark (Text.trim u)) :
    paragraphs ([t].intercalate ps) = ps := by
  induction ps with
  | nil => rfl
  | cons p ps ih =>
    rw [List.mem_cons, not_or] at inhabited
    have first := paragraphs_of_not_isParagraphMark (Ne.symm inhabited.1) (h p List.mem_cons_self)
    cases ps with
    | nil => rw [List.intercalate_singleton, first]
    | cons q ps =>
      rw [List.intercalate_cons_cons, List.append_assoc, List.singleton_append,
        paragraphs_append_cons mark, first,
        ih inhabited.2 fun r hr => h r (List.mem_cons_of_mem p hr)]
      rfl

/-- A line that marks no paragraph begins one, or goes on with the one that begins behind it. -/
theorem exists_paragraphs_cons (other : ¬ IsParagraphMark (Text.trim t)) (prose : List Text) :
    ∃ p ps, paragraphs (t :: prose) = (t :: p) :: ps ∧
      ∀ u, ¬ IsParagraphMark (Text.trim u) →
        paragraphs (u :: t :: prose) = (u :: t :: p) :: ps := by
  obtain ⟨p, ps, split⟩ := List.exists_cons_of_ne_nil
    (List.splitOnP_ne_nil (fun t => decide (IsParagraphMark (Text.trim t))) prose)
  refine ⟨p, ps.filter (· ≠ []), ?_, fun u hu => ?_⟩
  · simp [paragraphs, List.splitOnP_cons_eq_if_modifyHead, other, split]
  · simp [paragraphs, List.splitOnP_cons_eq_if_modifyHead, other, hu, split]

theorem joinParagraphs_cons_cons (t u : Text) (p : List Text) (ps : List (List Text)) :
    joinParagraphs ((t :: u :: p) :: ps) =
      Text.tidy t ++ ([' '] ++ joinParagraphs ((u :: p) :: ps)) := by
  simp only [joinParagraphs, List.map_cons, Text.intercalate_cons, List.flatMap_cons,
    List.append_assoc]

theorem joinParagraphs_singleton_cons (t : Text) (p : List Text) (ps : List (List Text)) :
    joinParagraphs ([t] :: p :: ps) =
      Text.tidy t ++ (['\n', '\n'] ++ joinParagraphs (p :: ps)) := by
  simp only [joinParagraphs, List.map_cons, List.intercalate_cons_cons, List.map_nil,
    List.intercalate_singleton, List.append_assoc]

theorem joinParagraphs_singleton_singleton (t : Text) : joinParagraphs [[t]] = Text.tidy t := by
  simp [joinParagraphs]

/-- Behind a plain line stands the rest of its paragraph, and then what other paragraphs there
are. -/
theorem tidy_append_continuation (h : ∀ u ∈ prose, IsParagraphMark (Text.trim u) ∨ IsPlain u) :
    (∀ t, IsPlain t →
      Text.tidy t ++ continuation prose = joinParagraphs (paragraphs (t :: prose))) ∧
    ∀ t mark, IsPlain t → IsParagraphMark (Text.trim mark) →
      Text.tidy t ++ continuation (mark :: prose) =
        joinParagraphs (paragraphs (t :: mark :: prose)) := by
  have alone {t : Text} (plain : IsPlain t) : paragraphs [t] = [[t]] :=
    paragraphs_of_not_isParagraphMark (List.cons_ne_nil t [])
      (List.forall_mem_singleton.mpr plain.not_isParagraphMark)
  have apart {t mark : Text} (plain : IsPlain t) (separates : IsParagraphMark (Text.trim mark))
      (prose : List Text) : paragraphs (t :: mark :: prose) = [t] :: paragraphs prose := by
    have split := paragraphs_append_cons separates [t] prose
    rwa [alone plain] at split
  -- By induction on the lines to come, for one more paragraph mark between them and the line.
  induction prose with
  | nil =>
    constructor
    · intro t plain
      rw [alone plain, joinParagraphs_singleton_singleton, continuation_nil, List.append_nil]
    · intro t mark plain separates
      rw [apart plain separates, continuation_mark separates, List.append_nil]
      exact (joinParagraphs_singleton_singleton t).symm
  | cons u prose ih =>
    obtain ⟨next, afterMark⟩ := ih fun v hv => h v (List.mem_cons_of_mem u hv)
    rcases h u List.mem_cons_self with mark' | plain'
    · refine ⟨fun t plain => afterMark t u plain mark', fun t mark plain separates => ?_⟩
      rw [continuation_mark_mark separates mark', afterMark t u plain mark', apart plain mark',
        apart plain separates]
      exact congrArg (fun ps => joinParagraphs ([t] :: ps))
        (paragraphs_append_cons mark' [] prose).symm
    · obtain ⟨p, ps, own, longer⟩ := exists_paragraphs_cons plain'.not_isParagraphMark prose
      have rest := next u plain'
      constructor
      · intro t plain
        rw [continuation_plain plain', rest, own, longer t plain.not_isParagraphMark,
          joinParagraphs_cons_cons]
      · intro t mark plain separates
        rw [continuation_mark_plain separates plain', rest, apart plain separates, own,
          joinParagraphs_singleton_cons]

end Description

/-- The description of plain lines and paragraph marks: what stands between the marks are its
paragraphs. -/
theorem description_of_plain
    (h : ∀ t ∈ prose, Description.IsParagraphMark (Text.trim t) ∨ Description.IsPlain t) :
    description prose = Description.joinParagraphs (Description.paragraphs prose) := by
  rw [Description.description_eq_settle h]
  induction prose with
  | nil => rfl
  | cons t prose ih =>
    have others := fun u hu => h u (List.mem_cons_of_mem t hu)
    rcases h t List.mem_cons_self with mark | plain
    · rw [Description.settle_running_mark mark, ih others]
      exact congrArg _ (Description.paragraphs_append_cons mark [] prose).symm
    · rw [Description.settle_running_plain plain]
      exact (Description.tidy_append_continuation others).1 t plain

theorem description_nil : description [] = [] := description_of_plain (List.forall_mem_nil _)

/-- A paragraph mark by itself describes nothing. -/
theorem description_paragraphMark : description [paragraphMark] = [] :=
  description_of_plain (List.forall_mem_singleton.mpr (Or.inl (by decide)))

/-- A tidy line in which nothing is marked up. -/
@[mk_iff]
structure IsProse (l : Text) : Prop extends Text.IsTidyLine l where
  bracket_not_mem : '<' ∉ l

instance : DecidablePred IsProse := fun l => decidable_of_iff _ (isProse_iff l).symm

theorem IsProse.isPlain {l : Text} (h : IsProse l) : Description.IsPlain l where
  visible := h.isSolid.visible
  bracket_not_mem := h.bracket_not_mem
  feed_not_mem := h.feed_not_mem

variable {paragraphs : List (List Text)}

/-- The description of plain paragraphs: their lines run together, and an empty line stands between
them. -/
theorem description_paragraphs (inhabited : [] ∉ paragraphs)
    (prose : ∀ p ∈ paragraphs, ∀ l ∈ p, IsProse l) :
    description ([paragraphMark].intercalate paragraphs) =
      ['\n', '\n'].intercalate (paragraphs.map [' '].intercalate) := by
  have mark : Description.IsParagraphMark (Text.trim paragraphMark) := by decide
  have plain : ∀ t ∈ [paragraphMark].intercalate paragraphs,
      Description.IsParagraphMark (Text.trim t) ∨ Description.IsPlain t := by
    intro t ht
    rcases Text.mem_or_mem_of_mem_intercalate ht with ht | ⟨p, hp, ht⟩
    · rw [List.mem_singleton.mp ht]
      exact Or.inl mark
    · exact Or.inr (prose p hp t ht).isPlain
  have split : Description.paragraphs ([paragraphMark].intercalate paragraphs) = paragraphs :=
    Description.paragraphs_intercalate inhabited mark fun p hp t ht =>
      (prose p hp t ht).isPlain.not_isParagraphMark
  have tidied : ∀ p ∈ paragraphs, [' '].intercalate (p.map Text.tidy) = [' '].intercalate p := by
    intro p hp
    rw [List.map_congr_left fun t ht => (prose p hp t ht).tidy_eq_self, List.map_id']
  rw [description_of_plain plain, split, Description.joinParagraphs, List.map_congr_left tidied]

/-- The description of one plain paragraph: its lines run together. -/
theorem description_paragraph {p : List Text} (nonempty : p ≠ []) (prose : ∀ l ∈ p, IsProse l) :
    description p = [' '].intercalate p := by
  have inhabited : [] ∉ [p] := by simpa using nonempty.symm
  have paragraph := description_paragraphs inhabited (by simpa using prose)
  rwa [List.intercalate_singleton, List.map_singleton, List.intercalate_singleton] at paragraph

/-- The description of a single line in which nothing is marked up. -/
theorem description_singleton {l : Text} (prose : IsProse (Text.tidy l)) :
    description [l] = Text.tidy l := by
  have tidied : description [l] = description [Text.tidy l] := by
    rw [description, description, List.map_singleton, List.map_singleton, prose.tidy_eq_self]
  rw [tidied, description_paragraph (List.cons_ne_nil _ _) (List.forall_mem_singleton.mpr prose),
    List.intercalate_singleton]

end DocMarkdown
