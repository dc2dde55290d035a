import DocMarkdown.Languages
import DocMarkdown.Proofs.Comment.Reading
import DocMarkdown.Proofs.Source.Blanks
import DocMarkdown.Proofs.Text.Margins

/-!
# Documents do not depend on layout

The margins of a source text, which are the indentation of its lines and what stands before its line
feeds, leave no trace in the document. Extraction looks for marks and for characters that are not
blank, so it finds the same parts with and without margins. Each part is then read in a way that
forgets its margins: labels by putting everything on one line, comments line by line.

## Main results

* `ofBody_dropWhile_isIndent`, `ofBody_rdropWhile_isTrailing` — the kind of a line without margins
* `ofText_markParagraphs_withoutMargins` — comments do not depend on margins
* `label_withoutMargins` — labels do not depend on margins
* `convert_withoutMargins` — documents do not depend on margins
-/

namespace DocMarkdown

/-! ### Lines -/

namespace Line

variable {line margin rest : Text}

/-- The indentation of a line does not matter. -/
theorem ofBody_dropWhile_isIndent (line : Text) :
    ofBody (line.dropWhile Text.isIndent) = ofBody line := by
  have again : (line.dropWhile Text.isIndent).dropWhile Text.isIndent =
      line.dropWhile Text.isIndent := List.dropWhile_idempotent _ line
  -- The kind of a line depends on what follows its marker, if it has one.
  by_cases h : (line.dropWhile Text.isIndent).head? = some marker
  · obtain ⟨rest, found⟩ := List.head?_eq_some_iff.mp h
    rw [ofBody_of_marker found, ofBody_of_marker (again.trans found)]
  · rw [ofBody_of_no_marker h, ofBody_of_no_marker (by rwa [again])]

theorem blank_of_isTrailing (h : ∀ c ∈ margin, Text.isTrailing c = true) :
    Text.blank margin = true :=
  Text.blank_iff.mpr fun c hc => Text.isBlank_of_isTrailing (h c hc)

theorem not_isAlpha_of_isTrailing {c : Char} (h : Text.isTrailing c = true) :
    c.isAlpha = false := by
  simp only [Text.isTrailing, Text.isIndent, Bool.or_eq_true, beq_iff_eq] at h
  rcases h with (rfl | rfl) | rfl <;> decide

/-- What follows a key goes with its value. -/
theorem splitKey_append (h : ∀ c ∈ margin, Text.isTrailing c = true) (rest : Text) :
    (rest ++ margin).takeWhile Char.isAlpha = rest.takeWhile Char.isAlpha ∧
      (rest ++ margin).dropWhile Char.isAlpha = rest.dropWhile Char.isAlpha ++ margin := by
  induction rest with
  | nil =>
    cases margin with
    | nil => exact ⟨rfl, rfl⟩
    | cons c margin =>
      -- The key is at an end, as no letter is a margin.
      have := not_isAlpha_of_isTrailing (h c List.mem_cons_self)
      simp [this]
  | cons c rest ih =>
    cases letter : c.isAlpha with
    | true => simp [letter, ih]
    | false => simp [letter]

/-- What stands at the end of a line that says something goes with its text. -/
theorem trimEnd_ofMarked_append (h : ∀ c ∈ margin, Text.isTrailing c = true)
    (inked : Text.blank line = false) :
    (ofMarked (line ++ margin)).trimEnd = (ofMarked line).trimEnd := by
  have blank := blank_of_isTrailing h
  have inside : ¬ ∀ c ∈ line, Text.isIndent c = true := by
    intro all
    rw [Text.blank_iff.mpr fun c hc => Text.isBlank_of_isIndent (all c hc)] at inked
    cases inked
  -- The indentation ends inside the line, so the margin goes with what follows it.
  have taken : (line ++ margin).takeWhile Text.isIndent = line.takeWhile Text.isIndent := by
    rw [List.takeWhile_append, if_neg]
    intro whole
    exact inside fun c hc =>
      List.mem_takeWhile_imp ((List.takeWhile_prefix _).eq_of_length whole ▸ hc)
  cases text : line.dropWhile Text.isIndent with
  | nil => exact absurd (List.dropWhile_eq_nil_iff.mp text) inside
  | cons d rest =>
    have left : (line ++ margin).dropWhile Text.isIndent = d :: (rest ++ margin) := by
      rw [List.dropWhile_append, text]
      rfl
    by_cases begins : d = '@'
    · subst begins
      obtain ⟨key, value⟩ := splitKey_append h rest
      rw [ofMarked_of_at left, ofMarked_of_at text, key, value]
      split
      · rfl
      · rw [trimEnd, trimEnd, Text.trimEnd_append_of_blank blank]
    · rw [ofMarked_of_no_at (by simpa [left] using begins),
        ofMarked_of_no_at (by simpa [text] using begins), taken, left, text, ← List.cons_append,
        Text.blank_append, blank, Bool.and_true]
      split
      · rfl
      · rw [trimEnd, trimEnd, Text.trimEnd_append_of_blank blank]

/-- What stands between a line and its line feed does not matter. -/
theorem trimEnd_ofBody_append (h : ∀ c ∈ margin, Text.isTrailing c = true) (line : Text) :
    (ofBody (line ++ margin)).trimEnd = (ofBody line).trimEnd := by
  have blank := blank_of_isTrailing h
  cases text : line.dropWhile Text.isIndent with
  | nil =>
    -- The line is nothing but indentation, and a marker is no margin.
    have absent : ∀ l ∈ (line ++ margin).dropWhile Text.isIndent, l ≠ marker := by
      intro c hc
      rw [List.dropWhile_append, text] at hc
      rintro rfl
      exact absurd (h marker ((List.dropWhile_subset _) hc)) (by decide)
    rw [ofBody_of_no_marker fun found => absent marker (List.mem_of_mem_head? found) rfl,
      ofBody_of_no_marker (by simp [text])]
  | cons d rest =>
    have left : (line ++ margin).dropWhile Text.isIndent = d :: (rest ++ margin) := by
      rw [List.dropWhile_append, text]
      rfl
    by_cases marked : d = marker
    · subst marked
      rw [ofBody_of_marker left, ofBody_of_marker text, Text.blank_append, blank, Bool.and_true]
      -- A marker with blanks behind it is a paragraph mark; otherwise the line says something.
      cases inked : Text.blank rest with
      | true => rfl
      | false => exact trimEnd_ofMarked_append h inked
    · rw [ofBody_of_no_marker (by simpa [left] using marked),
        ofBody_of_no_marker (by simpa [text] using marked)]

theorem trimEnd_ofBody_rdropWhile_isTrailing (line : Text) :
    (ofBody (line.rdropWhile Text.isTrailing)).trimEnd = (ofBody line).trimEnd := by
  have trailing : ∀ c ∈ line.rtakeWhile Text.isTrailing, Text.isTrailing c = true := by
    intro c hc
    exact List.mem_rtakeWhile_imp hc
  have split : line.rdropWhile Text.isTrailing ++ line.rtakeWhile Text.isTrailing = line :=
    List.rdropWhile_append_rtakeWhile
  rw [← trimEnd_ofBody_append trailing, split]

end Line

/-! ### Comments -/

theorem map_ofBody_trimLines (lines : List Text) :
    (Text.trimLines lines).map (fun l => (Line.ofBody l).trimEnd) =
      lines.map fun l => (Line.ofBody l).trimEnd := by
  induction lines with
  | nil => rfl
  | cons l lines ih =>
    cases lines with
    | nil => rfl
    | cons next lines =>
      rw [Text.trimLines, List.map_cons, ih, Line.trimEnd_ofBody_rdropWhile_isTrailing]
      rfl

/-- The lines of a body are of the same kinds with and without margins. -/
theorem map_ofBody_lines_withoutMargins (t : Text) :
    (Text.lines (Text.withoutMargins t)).map (fun l => (Line.ofBody l).trimEnd) =
      (Text.lines t).map fun l => (Line.ofBody l).trimEnd := by
  obtain ⟨first, others, same⟩ := List.exists_cons_of_ne_nil (Text.lines_ne_nil t)
  rw [Text.withoutMargins, Text.lines_dropTrailing, map_ofBody_trimLines,
    (Text.lines_dropLeading same).1, same]
  simp only [List.map_cons, List.map_map, Function.comp_def, Line.ofBody_dropWhile_isIndent]

theorem withMarker_withoutMargins (body : Text) :
    withMarker (Text.withoutMargins body) = Text.withoutMargins (withMarker body) := by
  have visible : Text.isBlank marker = false := by decide
  have same : (Text.withoutMargins body).contains marker = body.contains marker := by
    rw [Bool.eq_iff_iff, List.contains_iff_mem, List.contains_iff_mem]
    exact Text.actsOnBlanks_withoutMargins.mem_iff visible
  rw [withMarker, withMarker, same]
  split
  · rfl
  · exact (Text.actsOnBlanks_withoutMargins.cons visible).symm

/-- Comments do not depend on margins. -/
theorem ofText_markParagraphs_withoutMargins (body : Text) :
    Comment.ofText (markParagraphs (Text.withoutMargins body)) =
      Comment.ofText (markParagraphs body) := by
  -- Blanks at the ends of lines are dropped on both sides, which takes in the margins.
  have key : ∀ t : Text, Comment.ofLines ((Text.lines t).map Line.ofBody) =
      Comment.ofLines ((Text.lines t).map fun l => (Line.ofBody l).trimEnd) := by
    intro t
    rw [← Comment.ofLines_map_trimEnd, List.map_map]
    rfl
  rw [Comment.ofText_markParagraphs, Comment.ofText_markParagraphs, withMarker_withoutMargins, key,
    key, map_ofBody_lines_withoutMargins]

/-- Labels do not depend on margins. -/
theorem label_withoutMargins (declaration : Text) :
    label (Text.withoutMargins declaration) = label declaration := by
  have blanks : ∀ c, Text.isBlank c = true → (!(c == '{' || c == ';')) = true := by
    intro c hc
    rw [Bool.not_eq_true', Bool.or_eq_false_iff, beq_eq_false_iff_ne, beq_eq_false_iff_ne]
    constructor <;> rintro rfl <;> exact absurd hc (by decide)
  rw [label, label, Text.actsOnBlanks_withoutMargins.takeWhile_comm blanks,
    Text.oneLine_withoutMargins]

/-! ### Documents -/

/-- What is shown of a declaration depends on its label and on what its comment says. -/
theorem subsection_congr {a b c e : Text} (sameLabel : label a = label b)
    (sameComment : Comment.ofText c = Comment.ofText e) (d : Dialect) (level : Nat) :
    Markdown.subsection d level ⟨a, c⟩ = Markdown.subsection d level ⟨b, e⟩ := by
  simp only [Markdown.subsection, sameLabel, sameComment]

theorem document_withoutMargins (d : Dialect) (level : Nat) (code : Text) :
    Markdown.document d level (documentedIn (Text.withoutMargins code)) =
      Markdown.document d level (documentedIn code) := by
  -- The same blocks are found. Of each fragment only the label is shown, of each body the comment.
  have plain : documentedIn code =
      ((Source.ofText code).blocks.filter fun b => ¬ BeginsImport (Text.trim b.fragment)).map
        fun b => ⟨Text.trim b.fragment, markParagraphs b.body⟩ := filterMap_ofBlock? _
  have same : ∀ b : Block,
      Markdown.subsection d level ⟨Text.withoutMargins (Text.trim b.fragment),
          markParagraphs (Text.withoutMargins b.body)⟩ =
        Markdown.subsection d level ⟨Text.trim b.fragment, markParagraphs b.body⟩ := fun b =>
    subsection_congr (label_withoutMargins (Text.trim b.fragment))
      (ofText_markParagraphs_withoutMargins b.body) d level
  rw [documentedIn_comm Text.actsOnBlanks_withoutMargins, plain, Markdown.document,
    Markdown.document, List.flatMap_map, List.flatMap_map]
  simp only [same]

/-- A source text without its margins. -/
def withoutMargins (code : String) : String := String.ofList (Text.withoutMargins code.toList)

/-- A source text with the line ends of CRLF files. -/
def withCarriageReturns (code : String) : String :=
  String.ofList (Text.withCarriageReturns code.toList)

/-- Two source texts that differ in the indentation of their lines only. -/
def SameButIndentation (code other : String) : Prop :=
  Text.dropLeading false code.toList = Text.dropLeading false other.toList

theorem Dialect.convert_unmargined (d : Dialect) (code : String) (level : Nat) :
    d.convert (DocMarkdown.withoutMargins code) level = d.convert code level := by
  rw [Dialect.convert, Dialect.convert, DocMarkdown.withoutMargins, String.toList_ofList,
    document_withoutMargins]

theorem Dialect.convert_congr (d : Dialect) {code other : String}
    (h : Text.withoutMargins code.toList = Text.withoutMargins other.toList) (level : Nat) :
    d.convert code level = d.convert other level := by
  rw [← d.convert_unmargined code, ← d.convert_unmargined other, DocMarkdown.withoutMargins,
    DocMarkdown.withoutMargins, h]

/-- Documents do not depend on layout: a source text has the same document in every language and at
every level when its margins are deleted, when carriage returns are put before its line feeds, and
when its lines are indented in any other way. -/
theorem convert_withoutMargins (languages : Languages) (language code : String) (level : Nat) :
    languages.convert language (withoutMargins code) level = languages.convert language code level ∧
      languages.convert language (withCarriageReturns code) level =
        languages.convert language code level ∧
      ∀ other : String, SameButIndentation other code →
        languages.convert language other level = languages.convert language code level := by
  -- An unknown language has the same error for every source text.
  have key : ∀ other : String, (∀ d : Dialect, d.convert other level = d.convert code level) →
      languages.convert language other level = languages.convert language code level := by
    intro other same
    rw [Languages.convert, Languages.convert, funext same]
  refine ⟨?_, ?_, ?_⟩
  · apply key
    intro d
    exact d.convert_unmargined code level
  · apply key
    intro d
    apply d.convert_congr
    rw [withCarriageReturns, String.toList_ofList, Text.withoutMargins_withCarriageReturns]
  · intro other same
    apply key
    intro d
    apply d.convert_congr
    rw [Text.withoutMargins, same, Text.withoutMargins]

/-- A comment and a declaration in several lines, indented in two ways. -/
theorem convert_reindented :
    SameButIndentation "  /**\n\t\t* A.\n    */\n\tint\n  f()" "  /**\n * A.\n */\nint\n\t\tf()" ∧
      Languages.builtIn.convert "javadoc" "  /**\n\t\t* A.\n    */\n\tint\n  f()" 1 =
        Languages.builtIn.convert "javadoc" "  /**\n * A.\n */\nint\n\t\tf()" 1 := by
  have same : SameButIndentation "  /**\n\t\t* A.\n    */\n\tint\n  f()"
      "  /**\n * A.\n */\nint\n\t\tf()" := by
    rw [SameButIndentation]
    decide
  exact ⟨same, (convert_withoutMargins .builtIn "javadoc" _ 1).2.2 _ same⟩

end DocMarkdown
