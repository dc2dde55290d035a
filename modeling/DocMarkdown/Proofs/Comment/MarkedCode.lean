import DocMarkdown.Proofs.Comment.Blocks
import DocMarkdown.Proofs.Comment.Delimiting
import DocMarkdown.Proofs.Comment.NormalForm
import Mathlib.Data.List.Chain

/-!
# Marked code and delimited code

Marks that open and close code in turn become delimiters once all else about a description is
settled. Nothing before that depends on whether code is marked or delimited, so the marks may as
well be replaced in the lines of the comment: the description is the same.

## Main definitions

* `Description.settled` — the running text of a description, with all settled but its code
* `Comment.codeMarksIn` — the code marks in the description lines of a comment
* `Comment.delimit` — a comment with delimiters in the place of the first of these

## Main results

* `settled_delimitProse` — marks may be replaced in lines of prose
* `spanCode_eq_delimit` — marks in turn become delimiters
* `Comment.descriptionProse_delimit` — lines stay what they are when marks are replaced
* `Comment.description_delimit` — marked code and delimited code have the same description
-/

namespace DocMarkdown

variable {a b t : Text}

namespace Description

/-! ### Descriptions, but for their code -/

/-- The running text of a description, with all settled but its code. -/
def settled (prose : List Text) : Text :=
  joinBreaks (Text.tidy (breakParagraphs ([' '].intercalate (prose.map Text.tidy))))

/-- Lines of prose with delimiters in the place of their first code marks. -/
def delimitProse : ℕ → List Text → List Text
  | _, [] => []
  | n, t :: ts => delimit n t :: delimitProse (n - (codeMarksIn t).length) ts

theorem delimit_tidy (n : ℕ) (t : Text) : Text.tidy (delimit n t) = delimit n (Text.tidy t) := by
  rw [Text.tidy_eq, delimit_trim,
    (worksAround_of_actsOnBlanks Text.actsOnBlanks_spaced).delimit_comm, ← Text.tidy_eq]

theorem codeMarksIn_tidy (t : Text) : codeMarksIn (Text.tidy t) = codeMarksIn t := by
  rw [Text.tidy_eq, (worksAround_of_actsOnBlanks Text.actsOnBlanks_spaced).codeMarksIn_eq,
    codeMarksIn_trim]

/-- The marks of joined lines are those of the lines. -/
theorem codeMarksIn_running (prose : List Text) :
    codeMarksIn ([' '].intercalate (prose.map Text.tidy)) = prose.flatMap codeMarksIn := by
  have space : Text.IsBoundary codeMarks ' ' :=
    areBracketed_codeMarks.isBoundary_of_isBlank (by decide)
  induction prose with
  | nil => exact areBracketed_codeMarks.marksIn_nil
  | cons t prose ih =>
    cases prose with
    | nil => simp [codeMarksIn_tidy]
    | cons t' prose =>
      simp only [List.map_cons, List.intercalate_cons_cons, List.append_assoc,
        List.singleton_append] at ih ⊢
      rw [codeMarksIn_append_cons space (by decide), codeMarksIn_tidy, ih]
      rfl

/-- Marks may be replaced in the lines or when these are joined. -/
theorem running_delimitProse (n : ℕ) (prose : List Text) :
    [' '].intercalate ((delimitProse n prose).map Text.tidy) =
      delimit n ([' '].intercalate (prose.map Text.tidy)) := by
  have space : Text.IsBoundary codeMarks ' ' :=
    areBracketed_codeMarks.isBoundary_of_isBlank (by decide)
  induction prose generalizing n with
  | nil => exact (delimit_of_free areBracketed_codeMarks.marksIn_nil n).symm
  | cons t prose ih =>
    cases prose with
    | nil => simp [delimitProse, delimit_tidy]
    | cons t' prose =>
      have rest := ih (n - (codeMarksIn t).length)
      simp only [delimitProse, List.map_cons, List.intercalate_cons_cons, List.append_assoc,
        List.singleton_append] at rest ⊢
      rw [delimit_append_cons space (by decide), codeMarksIn_tidy, delimit_tidy, rest]

theorem settled_delimitProse (n : ℕ) (prose : List Text) :
    settled (delimitProse n prose) = delimit n (settled prose) := by
  rw [settled, running_delimitProse, worksAround_breakParagraphs.delimit_comm, delimit_tidy,
    (worksAround_of_actsOnBlanks actsOnBlanks_joinBreaks).delimit_comm, settled]

theorem codeMarksIn_settled (prose : List Text) :
    codeMarksIn (settled prose) = prose.flatMap codeMarksIn := by
  rw [settled, (worksAround_of_actsOnBlanks actsOnBlanks_joinBreaks).codeMarksIn_eq,
    codeMarksIn_tidy, worksAround_breakParagraphs.codeMarksIn_eq, codeMarksIn_running]

/-! ### Marks in turn -/

/-- What the code marks in a text are, opening or closing. -/
def codeKinds (t : Text) : List Text := (codeMarksIn t).map (·.map Char.toLower)

/-- Opening and closing marks in turn, this many of each. -/
def pairs : ℕ → List Text
  | 0 => []
  | k + 1 => codeOpening :: codeClosing :: pairs k

theorem length_pairs (k : ℕ) : (pairs k).length = 2 * k := by
  induction k with
  | zero => rfl
  | succ k ih => rw [pairs, List.length_cons, List.length_cons, ih, Nat.mul_succ]

/-- A pair ends with the mark that closes it. -/
theorem getLast?_pairs (k : ℕ) : (pairs k).getLast? ≠ some codeOpening := by
  induction k with
  | zero => decide
  | succ k ih =>
    cases k with
    | zero => decide
    | succ k => exact ih

/-- Marks that alternate and do not begin with a closing one are pairs, with an opening one left
over if there is an odd number of them. -/
theorem exists_pairs : ∀ {kinds : List Text}, (∀ kind ∈ kinds, kind ∈ codeMarks) →
    kinds.IsChain (· ≠ ·) → kinds.head? ≠ some codeClosing →
    ∃ k, kinds = pairs k ∨ kinds = pairs k ++ [codeOpening]
  | [], _, _, _ => ⟨0, Or.inl rfl⟩
  | x :: kinds, known, alternate, starts => by
    have opening : x = codeOpening := by
      rcases List.mem_pair.mp (known x List.mem_cons_self) with same | rfl
      · exact same
      · exact absurd rfl starts
    obtain ⟨next, alternate⟩ := List.isChain_cons.mp alternate
    cases kinds with
    | nil => exact ⟨0, Or.inr (by rw [opening]; rfl)⟩
    | cons y kinds =>
      have closing : y = codeClosing := by
        rcases List.mem_pair.mp (known y (by simp)) with same | same
        · exact absurd (opening.trans same.symm) (next y rfl)
        · exact same
      obtain ⟨next, alternate⟩ := List.isChain_cons.mp alternate
      have inner : ∀ kind ∈ kinds, kind ∈ codeMarks :=
        fun kind member => known kind (by simp [member])
      obtain ⟨k, rfl | rfl⟩ := exists_pairs inner alternate fun first => next _ first closing
      · exact ⟨k + 1, Or.inl (by rw [opening, closing, pairs])⟩
      · exact ⟨k + 1, Or.inr (by rw [opening, closing, pairs, List.cons_append, List.cons_append])⟩

theorem spanCode_of_some {code after : Text} (h : cutCode t = some (a, code, after)) :
    spanCode t = a ++ inlineCode code ++ spanCode after := by
  rw [spanCode]
  split
  · next found => simp [h] at found
  · next found =>
    simp only [h, Option.some.injEq, Prod.mk.injEq] at found
    obtain ⟨rfl, rfl, rfl⟩ := found
    rfl

/-- Without a closing mark there is no marked code. -/
theorem spanCode_of_unclosed (unclosed : codeClosing ∉ codeKinds t) : spanCode t = t := by
  refine spanCode_of_none (Option.eq_none_iff_forall_ne_some.mpr ?_)
  rintro ⟨before, code, after⟩ found
  obtain ⟨opened, closed, -, closing, rfl⟩ := exists_eq_of_cutCode found
  refine unclosed (List.mem_map.mpr ⟨closed, ?_, closing⟩)
  refine areBracketed_codeMarks.mem_marksIn.mpr ⟨?_, before ++ opened ++ code, after, by simp⟩
  exact List.mem_pair.mpr (Or.inr closing)

/-- The first two marks, if they open and close code. -/
theorem spanCode_append {o c : Text} (opening : o.map Char.toLower = codeOpening)
    (closing : c.map Char.toLower = codeClosing) (freeA : codeMarksIn a = [])
    (freeB : codeMarksIn b = []) (t : Text) :
    spanCode (a ++ o ++ (b ++ c ++ t)) = a ++ codeMark ++ (b ++ codeMark ++ spanCode t) := by
  have opens : Text.AreBracketed [codeOpening] := ⟨by decide, by decide, by decide, by decide⟩
  have closes : Text.AreBracketed [codeClosing] := ⟨by decide, by decide, by decide, by decide⟩
  have noOpening : Text.marksIn [codeOpening] a = [] :=
    areBracketed_codeMarks.marksIn_eq_nil_of_subset opens (by simp [codeMarks]) freeA
  have noClosing : Text.marksIn [codeClosing] b = [] :=
    areBracketed_codeMarks.marksIn_eq_nil_of_subset closes (by simp [codeMarks]) freeB
  have found : cutCode (a ++ o ++ (b ++ c ++ t)) = some (a, b, t) := by
    rw [cutCode, opens.cutWith_append_mark_append (Text.drops_dropFolded? _) noOpening
      (List.mem_singleton.mpr opening)]
    dsimp only [Option.bind_eq_bind, Option.bind_some]
    rw [closes.cutWith_append_mark_append (Text.drops_dropFolded? _) noClosing
      (List.mem_singleton.mpr closing)]
    rfl
  rw [spanCode_of_some found, inlineCode]
  simp only [List.append_assoc]

/-- Marks in turn become delimiters, and an opening mark that is left over stays. -/
theorem spanCode_eq_delimit {k : ℕ} {rest : List Text} (unclosed : codeClosing ∉ rest)
    (h : codeKinds t = pairs k ++ rest) : spanCode t = delimit (2 * k) t := by
  -- By induction on the pairs: the first is what is between the first two marks.
  induction k generalizing t with
  | zero =>
    rw [pairs, List.nil_append] at h
    exact spanCode_of_unclosed (h ▸ unclosed)
  | succ k ih =>
    obtain ⟨o, marks, found, opening, h⟩ := List.map_eq_cons_iff.mp h
    obtain ⟨c, marks, rfl, closing, h⟩ := List.map_eq_cons_iff.mp h
    obtain ⟨a, t, rfl, ho, freeA, found⟩ := areBracketed_codeMarks.exists_of_marksIn_eq_cons found
    obtain ⟨b, t, rfl, hc, freeB, rfl⟩ := areBracketed_codeMarks.exists_of_marksIn_eq_cons found
    rw [spanCode_append opening closing freeA freeB, Nat.mul_succ,
      delimit_append_mark_append freeA ho, delimit_append_mark_append freeB hc, ih h]

end Description

namespace Comment

/-- The prose in the description lines of a comment. -/
def descriptionProse (comment : Text) : List Text :=
  leadingProse ((Text.lines comment).map Line.ofText)

/-- The code marks in the description lines of a comment. -/
def codeMarksIn (comment : Text) : List Text :=
  (descriptionProse comment).flatMap Description.codeMarksIn

/-- Lines of a comment with delimiters in the place of the first code marks of its description
lines. -/
def delimitLines : ℕ → List Text → List Text
  | _, [] => []
  | n, l :: ls =>
    match Line.ofText l with
    | .prose text =>
      Description.delimit n l :: delimitLines (n - (Description.codeMarksIn text).length) ls
    | .void => l :: delimitLines n ls
    | .tag _ _ => l :: ls
    | .close => l :: ls

/-- A comment with delimiters in the place of the first code marks of its description lines. -/
def delimit (n : ℕ) (comment : Text) : Text :=
  Text.unlines (delimitLines n (Text.lines comment))

/-- A line of prose stays one when its marks are replaced. -/
theorem spells_delimit {text line : Text} (spells : Line.Spells (.prose text) line) (n : ℕ) :
    Line.Spells (.prose (Description.delimit n text)) (Description.delimit n line) := by
  cases spells with
  | @prose indent margin text outer inner apart begins visible =>
    have front : '<' ∉ indent ++ marker :: margin := by
      simp [Text.bracket_not_mem_of_blank outer.blank,
        Text.bracket_not_mem_of_blank inner.blank, marker]
    have whole (t : Text) :
        indent ++ marker :: (margin ++ t) = indent ++ marker :: margin ++ t := by
      simp
    rw [whole, Description.delimit_append_of_not_mem front, ← whole]
    refine .prose outer inner apart (fun c first => ?_) ?_
    · rcases Description.head?_delimit first with first | rfl
      · exact begins c first
      · decide
    · exact Description.blank_delimit visible n

theorem leadingProse_delimitLines (n : ℕ) (lines : List Text) :
    leadingProse ((delimitLines n lines).map Line.ofText) =
      Description.delimitProse n (leadingProse (lines.map Line.ofText)) := by
  induction lines generalizing n with
  | nil => rfl
  | cons l ls ih =>
    cases kind : Line.ofText l with
    | prose text =>
      have spells := spells_delimit (Line.spells_iff.mpr kind) n
      rw [delimitLines, kind, List.map_cons, List.map_cons, spells.ofText_eq, kind,
        leadingProse_prose, leadingProse_prose, ih]
      rfl
    | void =>
      rw [delimitLines, kind, List.map_cons, List.map_cons, kind]
      exact ih n
    | tag key value =>
      rw [delimitLines, kind, List.map_cons, kind]
      rfl
    | close =>
      rw [delimitLines, kind, List.map_cons, kind]
      rfl

theorem feed_not_mem_delimitLines {lines : List Text} (free : ∀ l ∈ lines, '\n' ∉ l) (n : ℕ) :
    ∀ l ∈ delimitLines n lines, '\n' ∉ l := by
  induction lines generalizing n with
  | nil => exact free
  | cons l ls ih =>
    have first := free l List.mem_cons_self
    have others := fun l' hl' => free l' (List.mem_cons_of_mem l hl')
    rw [delimitLines]
    split
    · refine List.forall_mem_cons.mpr ⟨fun inside => ?_, ih others _⟩
      rcases Description.mem_of_mem_delimit inside with inside | delimiter
      · exact first inside
      · exact absurd delimiter (by decide)
    · exact List.forall_mem_cons.mpr ⟨first, ih others n⟩
    · exact free
    · exact free

theorem description_ofText (comment : Text) :
    (ofText comment).description =
      Description.spanCode (Description.settled (descriptionProse comment)) := by
  rw [ofText_eq, ofLines_eq]
  rfl

theorem descriptionProse_delimit (n : ℕ) (comment : Text) :
    descriptionProse (delimit n comment) =
      Description.delimitProse n (descriptionProse comment) := by
  have free : ∀ l ∈ delimitLines n (Text.lines comment), '\n' ∉ l :=
    feed_not_mem_delimitLines (fun l hl => Text.not_mem_of_mem_lines hl) n
  have nonempty : delimitLines n (Text.lines comment) ≠ [] := by
    obtain ⟨l, ls, same⟩ := List.exists_cons_of_ne_nil (Text.lines_ne_nil comment)
    rw [same, delimitLines]
    split <;> exact List.cons_ne_nil _ _
  rw [descriptionProse, delimit, Text.lines_unlines nonempty free, leadingProse_delimitLines,
    descriptionProse]

/-- What the code marks in the description lines of a comment are, opening or closing. -/
def codeKinds (comment : Text) : List Text := (codeMarksIn comment).map (·.map Char.toLower)

theorem codeKinds_settled (comment : Text) :
    Description.codeKinds (Description.settled (descriptionProse comment)) = codeKinds comment := by
  rw [Description.codeKinds, Description.codeMarksIn_settled]
  rfl

/-- Pairs of marks may be replaced in the comment, whatever marks follow them that close no code. -/
theorem description_delimit_pairs {comment : Text} {k : ℕ} {rest : List Text}
    (unclosed : Description.codeClosing ∉ rest)
    (h : codeKinds comment = Description.pairs k ++ rest) :
    (ofText (delimit (2 * k) comment)).description = (ofText comment).description ∧
      Description.codeMarksIn (ofText comment).description =
        (codeMarksIn comment).drop (2 * k) := by
  have kinds := (codeKinds_settled comment).trans h
  -- What is left when the pairs are replaced holds no marked code.
  have left : Description.codeKinds (Description.delimit (2 * k)
      (Description.settled (descriptionProse comment))) = rest := by
    rw [Description.codeKinds, Description.codeMarksIn_delimit, List.map_drop,
      ← Description.codeKinds, kinds, List.drop_left' (Description.length_pairs k)]
  have original :=
    (description_ofText comment).trans (Description.spanCode_eq_delimit unclosed kinds)
  constructor
  · rw [original, description_ofText, descriptionProse_delimit, Description.settled_delimitProse,
      Description.spanCode_of_unclosed (left ▸ unclosed)]
  · rw [original, Description.codeMarksIn_delimit, Description.codeMarksIn_settled, codeMarksIn]

/-- Marks that open and close code in turn may be replaced by delimiters in the description lines of
a comment: its description is the same, and no marks are left in it. An opening mark left over at
the end stays as it is, and the others may be replaced. -/
theorem description_delimit {comment : Text} (alternate : (codeKinds comment).IsChain (· ≠ ·))
    (starts : (codeKinds comment).head? ≠ some Description.codeClosing) :
    ((codeKinds comment).getLast? ≠ some Description.codeOpening →
        (ofText (delimit (codeMarksIn comment).length comment)).description =
            (ofText comment).description ∧
          Description.codeMarksIn (ofText comment).description = []) ∧
      ∀ last ∈ (codeMarksIn comment).getLast?, last.map Char.toLower = Description.codeOpening →
        (ofText (delimit ((codeMarksIn comment).length - 1) comment)).description =
            (ofText comment).description ∧
          Description.codeMarksIn (ofText comment).description = [last] := by
  have known : ∀ kind ∈ codeKinds comment, kind ∈ Description.codeMarks := by
    intro kind member
    obtain ⟨m, inside, rfl⟩ := List.mem_map.mp member
    obtain ⟨text, -, inside⟩ := List.mem_flatMap.mp inside
    exact (Description.areBracketed_codeMarks.mem_marksIn.mp inside).1
  have count : (codeKinds comment).length = (codeMarksIn comment).length := List.length_map _
  obtain ⟨k, paired | left⟩ := Description.exists_pairs known alternate starts
  · have length : (codeMarksIn comment).length = 2 * k := by
      rw [← count, paired, Description.length_pairs]
    refine ⟨fun _ => ?_, fun last member opening => ?_⟩
    · have pairs :=
        description_delimit_pairs List.not_mem_nil (paired.trans (List.append_nil _).symm)
      rwa [← length, List.drop_length] at pairs
    · have ends : (codeKinds comment).getLast? = some Description.codeOpening := by
        rw [codeKinds, List.getLast?_map, member, ← opening]
        rfl
      exact absurd (paired ▸ ends) (Description.getLast?_pairs k)
  · have length : (codeMarksIn comment).length = 2 * k + 1 := by
      rw [← count, left, List.length_append, Description.length_pairs, List.length_singleton]
    refine ⟨fun ends => ?_, fun last member opening => ?_⟩
    · exact absurd (by rw [left, List.getLast?_concat]) ends
    · have pairs := description_delimit_pairs (by decide) left
      obtain ⟨front, split⟩ := List.getLast?_eq_some_iff.mp member
      have before : front.length = 2 * k := by
        rw [split, List.length_append] at length
        exact Nat.succ.inj length
      have dropped : (codeMarksIn comment).drop (2 * k) = [last] := by
        rw [split, List.drop_left' before]
      rw [dropped] at pairs
      rwa [length, Nat.add_sub_cancel]

/-- Code across lines and a paragraph mark, code on one line, and an opening mark that is left over.
The marks on a line without prose and on a tag line do not count. -/
def markedComment : Text :=
  Text.unlines (["* Call <CODE>f", "* <p>", "* (x)</code> or <code>g</Code>,", "*<code>",
    "* not <Code>h.", "* @see <code>k</code>"].map String.toList)

theorem description_delimit_across :
    (codeKinds markedComment).IsChain (· ≠ ·) ∧
      (codeKinds markedComment).head? ≠ some Description.codeClosing ∧
      delimit 4 markedComment =
        Text.unlines (["* Call `f", "* <p>", "* (x)` or `g`,", "*<code>", "* not <Code>h.",
          "* @see <code>k</code>"].map String.toList) ∧
      (ofText (delimit 4 markedComment)).description = (ofText markedComment).description ∧
      Description.codeMarksIn (ofText markedComment).description = ["<Code>".toList] := by
  have alternate : (codeKinds markedComment).IsChain (· ≠ ·) := by decide
  have starts : (codeKinds markedComment).head? ≠ some Description.codeClosing := by decide
  exact ⟨alternate, starts, by decide,
    (description_delimit alternate starts).2 "<Code>".toList (by decide) (by decide)⟩

end Comment

end DocMarkdown
