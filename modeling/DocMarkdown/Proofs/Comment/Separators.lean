import DocMarkdown.Proofs.Comment.Blocks

/-!
# The paragraphs of a comment's body

A line with nothing but the marker separates paragraphs, as does a line with nothing but a paragraph
mark. In the body of a comment both are the same, as the first becomes the second before the comment
is read. Lines without prose stand in no paragraph and separate none.

## Main definitions

* `Line.Separates` — the lines that separate paragraphs
* `Line.IsSimple` — the lines of a description in which nothing else is marked up
* `Comment.descriptionLines` — the lines of a body up to the first block
* `Comment.paragraphsIn` — the prose of lines, in paragraphs

## Main results

* `Line.separates_iff` — what separates paragraphs is prose that marks one
* `Comment.paragraphs_leadingProse` — the paragraphs of a body from those of its lines
* `Comment.description_of_simple` — the description of simple lines
-/

namespace DocMarkdown

/-- Where what separates elements is kept as what separates their values, the values are split where
the elements are. -/
theorem splitOnP_filterMap {α β : Type*} {p : α → Bool} {q : β → Bool} {f g : α → Option β}
    (same : ∀ x, p x = (f x).any q) (other : ∀ x, p x = false → f x = g x) (xs : List α) :
    (xs.filterMap f).splitOnP q = (xs.splitOnP p).map (·.filterMap g) := by
  induction xs with
  | nil => rfl
  | cons x xs ih =>
    obtain ⟨first, others, split⟩ := List.exists_cons_of_ne_nil (List.splitOnP_ne_nil p xs)
    rw [split] at ih
    have separates := same x
    cases value : f x with
    | none =>
      rw [value, Option.any_none] at separates
      have none : g x = none := (other x separates).symm.trans value
      simp [List.splitOnP_cons_eq_if_modifyHead, value, separates, none, split, ih]
    | some y =>
      rw [value, Option.any_some] at separates
      cases kept : q y with
      | true =>
        rw [kept] at separates
        simp [List.splitOnP_cons_eq_if_modifyHead, value, separates, kept, split, ih]
      | false =>
        rw [kept] at separates
        have some : g x = some y := (other x separates).symm.trans value
        simp [List.splitOnP_cons_eq_if_modifyHead, value, separates, kept, some, split, ih]

variable {line body : Text}

namespace Line

/-- The lines that separate paragraphs. -/
inductive Separates : Text → Prop
  /-- Nothing visible follows the marker. -/
  | bare {indent rest : Text} (outer : IsMargin indent) (blank : Text.blank rest = true) :
      Separates (indent ++ marker :: rest)
  /-- The prose is a paragraph mark and nothing else. -/
  | marked {line text : Text} (prose : Spells (.prose text) line)
      (mark : Description.IsParagraphMark (Text.trim text)) : Separates line

/-- The lines of a description in which nothing is marked up but the ends of paragraphs. -/
inductive IsSimple : Text → Prop
  | separator {line : Text} (separates : Separates line) : IsSimple line
  | content {line text : Text} (prose : Spells (.prose text) line) (plain : '<' ∉ text) :
      IsSimple line
  | noContent {line : Text} (void : Spells .void line) : IsSimple line

/-- In a body, the marker by itself is read as a paragraph mark, and any other line as it stands. -/
theorem ofBody_cases (line : Text) :
    (Separates line ∧ ofBody line = prose paragraphMark ∧ ofText line = void) ∨
      ofBody line = ofText line := by
  by_cases first : (line.dropWhile Text.isIndent).head? = some marker
  · obtain ⟨rest, left⟩ := List.head?_eq_some_iff.mp first
    have whole := List.takeWhile_append_dropWhile (p := Text.isIndent) (l := line)
    rw [ofBody_of_marker left, ofText_of_marker left]
    split
    · next blank =>
      have separates := Separates.bare (isMargin_takeWhile line) blank
      rw [← left, whole] at separates
      exact Or.inl ⟨separates, rfl, ofMarked_of_blank blank⟩
    · exact Or.inr rfl
  · exact Or.inr (by rw [ofBody_of_no_marker first, ofText_of_no_marker first])

/-- Paragraphs are separated by the prose that marks one. -/
theorem separates_iff :
    Separates line ↔
      ∃ text ∈ (ofBody line).prose?, Description.IsParagraphMark (Text.trim text) := by
  constructor
  · intro separates
    cases separates with
    | bare outer blank =>
      refine ⟨paragraphMark, ?_, by decide⟩
      rw [ofBody_of_marker (dropWhile_append_marker outer), if_pos blank]
      rfl
    | marked prose mark =>
      refine ⟨_, ?_, mark⟩
      rcases ofBody_cases line with ⟨-, -, none⟩ | same
      · cases prose.ofText_eq.symm.trans none
      · rw [same, mem_prose?_ofText]
        exact prose
  · rintro ⟨text, member, mark⟩
    rcases ofBody_cases line with ⟨separates, -, -⟩ | same
    · exact separates
    · rw [same, mem_prose?_ofText] at member
      exact .marked member mark

instance : DecidablePred Separates := fun _ => decidable_of_iff _ separates_iff.symm

theorem isSimple_iff :
    IsSimple line ↔ Separates line ∨ (∃ text ∈ (ofText line).prose?, '<' ∉ text) ∨
      ofText line = void := by
  simp only [mem_prose?_ofText, ← spells_iff]
  constructor
  · rintro (separates | ⟨prose, plain⟩ | void)
    · exact Or.inl separates
    · exact Or.inr (Or.inl ⟨_, prose, plain⟩)
    · exact Or.inr (Or.inr void)
  · rintro (separates | ⟨text, prose, plain⟩ | void)
    · exact .separator separates
    · exact .content prose plain
    · exact .noContent void

instance : DecidablePred IsSimple := fun _ => decidable_of_iff _ isSimple_iff.symm

theorem beginsBlock_ofBody (line : Text) :
    (ofBody line).beginsBlock = (ofText line).beginsBlock := by
  rcases ofBody_cases line with ⟨-, mark, none⟩ | same
  · rw [mark, none]
    rfl
  · rw [same]

end Line

namespace Comment

/-- The lines of a body before the first that begins a block. -/
def descriptionLines (body : Text) : List Text :=
  (Text.lines body).takeWhile fun l => !(Line.ofText l).beginsBlock

/-- The prose of lines, in the paragraphs between those that separate them. -/
def paragraphsIn (lines : List Text) : List (List Text) :=
  ((lines.splitOnP fun l => Line.Separates l).map
    (·.filterMap fun l => (Line.ofText l).prose?)).filter (· ≠ [])

theorem leadingProse_map_ofBody (lines : List Text) :
    leadingProse (lines.map Line.ofBody) =
      (lines.takeWhile fun l => !(Line.ofText l).beginsBlock).filterMap
        fun l => (Line.ofBody l).prose? := by
  rw [leadingProse, List.takeWhile_map, List.filterMap_map]
  simp only [Function.comp_def, Line.beginsBlock_ofBody]

/-- The prose between paragraph marks is what stands in the lines between those that separate
paragraphs. -/
theorem paragraphs_filterMap_ofBody (lines : List Text) :
    Description.paragraphs (lines.filterMap fun l => (Line.ofBody l).prose?) =
      paragraphsIn lines := by
  rw [Description.paragraphs, paragraphsIn]
  refine congrArg _ (splitOnP_filterMap (fun l => ?_) (fun l other => ?_) lines)
  · rw [Bool.eq_iff_iff, decide_eq_true_iff, Line.separates_iff, Option.any_eq_true]
    simp only [decide_eq_true_iff, Option.mem_def]
  · rcases Line.ofBody_cases l with ⟨separates, -, -⟩ | same
    · exact absurd separates (of_decide_eq_false other)
    · rw [same]

/-- The paragraphs on the two sides of a line that separates some. -/
theorem paragraphsIn_append_cons (separates : Line.Separates line) (front back : List Text) :
    paragraphsIn (front ++ line :: back) = paragraphsIn front ++ paragraphsIn back := by
  rw [paragraphsIn, List.splitOnP_append_cons front back (decide_eq_true separates),
    List.map_append, List.filter_append]
  rfl

/-- Lines without prose that separate nothing do not matter. -/
theorem paragraphsIn_append_void (void : Line.Spells .void line) (other : ¬ Line.Separates line)
    (front back : List Text) :
    paragraphsIn (front ++ line :: back) = paragraphsIn (front ++ back) := by
  have silent : (Line.ofBody line).prose? = none := by
    rcases Line.ofBody_cases line with ⟨separates, -, -⟩ | same
    · exact absurd separates other
    · rw [same, void.ofText_eq]
      rfl
  simp only [← paragraphs_filterMap_ofBody, List.filterMap_append, List.filterMap_cons, silent]

theorem isPlain_of_spells {text : Text} (feedless : '\n' ∉ line)
    (prose : Line.Spells (.prose text) line) (plain : '<' ∉ text) : Description.IsPlain text := by
  cases prose with
  | prose outer inner apart begins visible =>
    exact ⟨visible, plain, fun inside => feedless (by simp [inside])⟩

/-- The prose of a simple line is plain, or marks a paragraph. -/
theorem isPlain_of_isSimple {text : Text} (feedless : '\n' ∉ line) (simple : Line.IsSimple line)
    (member : text ∈ (Line.ofBody line).prose?) :
    Description.IsParagraphMark (Text.trim text) ∨ Description.IsPlain text := by
  rcases Line.ofBody_cases line with ⟨separates, read, -⟩ | same
  · rw [read] at member
    rw [← Option.some.inj member]
    exact Or.inl (by decide)
  · cases simple with
    | separator separates =>
      obtain ⟨mark, own, marks⟩ := Line.separates_iff.mp separates
      exact Or.inl (Option.mem_unique own member ▸ marks)
    | content prose plain =>
      rw [same, Line.mem_prose?_ofText] at member
      cases prose.ofText_eq.symm.trans member.ofText_eq
      exact Or.inr (isPlain_of_spells feedless prose plain)
    | noContent void =>
      rw [same, void.ofText_eq] at member
      cases member

/-- The description of a comment's body with simple lines up to the first block: the prose of the
lines in paragraphs, where lines that separate them may be added at the two ends and wherever there
is one already, and lines without prose anywhere. -/
theorem description_of_simple (marked : marker ∈ body)
    (simple : ∀ l ∈ descriptionLines body, Line.IsSimple l) :
    (ofText (markParagraphs body)).description =
        Description.joinParagraphs (paragraphsIn (descriptionLines body)) ∧
      (∀ front s back, Line.Separates s →
        paragraphsIn (front ++ s :: back) = paragraphsIn front ++ paragraphsIn back) ∧
      ∀ front v back, Line.Spells .void v → ¬ Line.Separates v →
        paragraphsIn (front ++ v :: back) = paragraphsIn (front ++ back) := by
  have prose : ∀ text ∈ leadingProse ((Text.lines body).map Line.ofBody),
      Description.IsParagraphMark (Text.trim text) ∨ Description.IsPlain text := by
    intro text member
    rw [leadingProse_map_ofBody, List.mem_filterMap] at member
    obtain ⟨l, inside, member⟩ := member
    exact isPlain_of_isSimple (Text.not_mem_of_mem_lines ((List.takeWhile_subset _) inside))
      (simple l inside) member
  refine ⟨?_, fun front s back separates => paragraphsIn_append_cons separates front back,
    fun front v back void other => paragraphsIn_append_void void other front back⟩
  rw [ofText_markParagraphs, withMarker_of_mem marked, ofLines_eq, description_of_plain prose,
    leadingProse_map_ofBody, paragraphs_filterMap_ofBody, descriptionLines]

/-- Lines that end in a carriage return, paragraphs with several lines between them that separate
them, lines without prose among these, and a tag below. -/
def mixedBody : Text :=
  Text.unlines (["", " * One,\r", " * or 1.", " *", " *\t2,\t or\r", " more.", " * </P>",
    " *  <p> ", " *glued", " * Three.", " * @see 4"].map String.toList)

theorem description_of_simple_mixed :
    marker ∈ mixedBody ∧ (∀ l ∈ descriptionLines mixedBody, Line.IsSimple l) ∧
      (ofText (markParagraphs mixedBody)).description =
        "One, or 1.\n\n2,\tor\n\nThree.".toList := by
  have marked : marker ∈ mixedBody := by decide
  have simple : ∀ l ∈ descriptionLines mixedBody, Line.IsSimple l := by decide
  exact ⟨marked, simple, (description_of_simple marked simple).1.trans (by decide)⟩

end Comment

end DocMarkdown
