import DocMarkdown.Proofs.Source.Blanks
import DocMarkdown.Proofs.Source.Concatenation
import DocMarkdown.Proofs.Text.OneLine

/-!
# Declarations and their labels

A declaration is what its fragment is cut to, and it is cut once more for its label, at fewer
characters. The second cut finds nothing, so the label of a declaration is the declaration on one
line. Putting a text on one line changes its blanks only: what is visible stays, and a label begins
with an import statement only if its declaration does.

## Main results

* `beginsImport_oneLine_iff` — import statements on one line
* `exists_block_of_mem_documentedIn` — declarations come from blocks
* `document_eq_flatten` — a document has a subsection for each declaration that is not empty
* `label_label` — the label of a label is the label itself
* `labels_of_documentedIn` — what is documented, and how it is named
-/

namespace DocMarkdown

variable {code declaration : Text} {documented : Documented} {c : Char}

/-! ### Import statements on one line -/

/-- A text on one line begins with an import statement if the trimmed text does. -/
theorem beginsImport_oneLine_iff {t : Text} :
    BeginsImport (Text.oneLine t) ↔ BeginsImport (Text.trim t) := by
  have acts := Text.actsOnBlanks_squeeze.comp Text.actsOnBlanks_unbroken
  rw [Text.oneLine_eq, acts.trim_comm]
  exact beginsImport_iff acts

/-! ### Declarations -/

/-- What is documented comes from a block: its declaration is the fragment of the block, trimmed. -/
theorem exists_block_of_mem_documentedIn (member : documented ∈ documentedIn code) :
    ∃ b : Block, b.Delimited ∧ documented.declaration = Text.trim b.fragment ∧
      ¬ BeginsImport documented.declaration := by
  rw [documentedIn, filterMap_ofBlock?, List.mem_map] at member
  obtain ⟨b, among, rfl⟩ := member
  obtain ⟨among, other⟩ := List.mem_filter.mp among
  have grammatical := Source.grammatical_ofText code
  generalize Source.ofText code = s at among grammatical
  refine ⟨b, ?_, rfl, of_decide_eq_true other⟩
  induction grammatical with
  | tail => cases among
  | block delimited _ _ ih =>
    rcases List.mem_cons.mp among with rfl | among
    · exact delimited
    · exact ih among

theorem trim_declaration (member : documented ∈ documentedIn code) :
    Text.trim documented.declaration = documented.declaration := by
  obtain ⟨b, -, same, -⟩ := exists_block_of_mem_documentedIn member
  rw [same, Text.trim_trim]

/-- No character that ends a fragment is in a declaration. -/
theorem endsFragment_of_mem_declaration (member : documented ∈ documentedIn code)
    (inside : c ∈ documented.declaration) : Block.endsFragment c = false := by
  obtain ⟨b, delimited, same, -⟩ := exists_block_of_mem_documentedIn member
  exact delimited.fragment c (Text.mem_of_mem_trim (same ▸ inside))

/-! ### Labels -/

/-- Where no body begins and no statement ends, the label is the whole declaration on one line. -/
theorem label_eq_oneLine (unopened : '{' ∉ declaration) (unended : ';' ∉ declaration) :
    label declaration = Text.oneLine declaration := by
  have kept : declaration.takeWhile (fun c => !(c == '{' || c == ';')) = declaration := by
    refine List.takeWhile_eq_self_iff.mpr fun c hc => ?_
    have brace : c ≠ '{' := fun same => unopened (same ▸ hc)
    have semicolon : c ≠ ';' := fun same => unended (same ▸ hc)
    simp [brace, semicolon]
  rw [label, kept]

/-- A label is on one line, and holds no character at which it is cut. -/
theorem of_mem_label (member : c ∈ label declaration) :
    c ≠ '{' ∧ c ≠ ';' ∧ Text.isBreak c = false := by
  have uncut : c ≠ '{' ∧ c ≠ ';' := by
    -- The two characters are not blank, so they would have been in what is put on one line.
    constructor <;> rintro rfl <;>
      exact absurd (List.mem_takeWhile_imp (Text.mem_of_mem_oneLine (by decide) member)) (by decide)
  exact ⟨uncut.1, uncut.2, Text.isBreak_of_mem_oneLine member⟩

/-- The label of a label is the label itself. -/
theorem label_label (declaration : Text) : label (label declaration) = label declaration := by
  rw [label_eq_oneLine (fun inside => (of_mem_label inside).1 rfl)
    fun inside => (of_mem_label inside).2.1 rfl]
  exact Text.oneLine_oneLine _

/-- A declaration of a source text is cut no more for its label. -/
theorem label_declaration (member : documented ∈ documentedIn code) :
    label documented.declaration = Text.oneLine documented.declaration := by
  apply label_eq_oneLine <;> intro inside <;>
    exact absurd (endsFragment_of_mem_declaration member inside) (by decide)

/-- A declaration of a source text has a label unless it is empty. -/
theorem label_declaration_eq_nil_iff (member : documented ∈ documentedIn code) :
    label documented.declaration = [] ↔ documented.declaration = [] := by
  rw [label_declaration member, Text.oneLine_eq_nil_iff, trim_declaration member]

/-! ### Subsections -/

namespace Markdown

variable (d : Dialect) (level : Nat)

/-- What is shown under a label begins with a heading for it. -/
theorem heading_prefix_subsection (named : label documented.declaration ≠ []) :
    "\n\n".toList ++ heading (level + 1) (inlineCode (label documented.declaration)) <+:
      subsection d level documented := by
  rw [subsection_of_label_ne_nil named, List.append_assoc]
  exact List.prefix_append _ _

theorem subsection_eq_nil_iff (member : documented ∈ documentedIn code) :
    subsection d level documented = [] ↔ documented.declaration = [] := by
  rw [← label_declaration_eq_nil_iff member]
  constructor
  · intro hidden
    by_contra named
    have shown := heading_prefix_subsection d level named
    rw [hidden, List.prefix_nil] at shown
    cases shown
  · exact subsection_of_label_eq_nil

/-- A document has a subsection for each declaration that is not empty, and shows nothing of the
others. -/
theorem document_eq_flatten (code : Text) :
    document d level (documentedIn code) =
      title level ++ (((documentedIn code).filter (·.declaration ≠ [])).map
        (subsection d level)).flatten ++ ['\n'] := by
  have shown : (documentedIn code).filter (·.declaration ≠ []) =
      (documentedIn code).filter ((· ≠ []) ∘ subsection d level) :=
    List.filter_congr fun documented member => by
      simp [subsection_eq_nil_iff d level member]
  rw [document, List.flatMap_def, shown, ← List.filter_map, List.flatten_filter_ne_nil]

end Markdown

/-- What is documented, and how it is named. The declarations of a source text are trimmed, hold no
character that ends a fragment, and are no import statements. The label of each is the declaration
on one line, is empty only if the declaration is, and is no import statement either. So the
document has exactly one subsection for each declaration that is not empty, in order, which begins
with its heading. All labels are on one line, without the characters at which they are cut, and the
label of a label is the label itself. -/
theorem labels_of_documentedIn (d : Dialect) (code : String) (level : Nat) :
    (∀ documented ∈ documentedIn code.toList,
      Text.trim documented.declaration = documented.declaration ∧
      (∀ c ∈ documented.declaration, c ≠ '{' ∧ c ≠ ';' ∧ c ≠ '/') ∧
      ¬ BeginsImport documented.declaration ∧
      label documented.declaration = Text.oneLine documented.declaration ∧
      (label documented.declaration = [] ↔ documented.declaration = []) ∧
      ¬ BeginsImport (label documented.declaration) ∧
      (documented.declaration ≠ [] →
        "\n\n".toList ++
            Markdown.heading (level + 1) (inlineCode (label documented.declaration)) <+:
          Markdown.subsection d level documented)) ∧
    (d.convert code level).toList =
      Markdown.title level ++ (((documentedIn code.toList).filter (·.declaration ≠ [])).map
        (Markdown.subsection d level)).flatten ++ ['\n'] ∧
    ∀ declaration : Text, label (label declaration) = label declaration ∧
      ∀ c ∈ label declaration, c ≠ '{' ∧ c ≠ ';' ∧ c ≠ '\n' ∧ c ≠ '\r' ∧ c ≠ '\t' := by
  refine ⟨fun documented member => ?_, ?_, fun declaration => ⟨label_label declaration, ?_⟩⟩
  · obtain ⟨b, -, -, other⟩ := exists_block_of_mem_documentedIn member
    have named := label_declaration_eq_nil_iff member
    refine ⟨trim_declaration member, fun c inside => ?_, other, label_declaration member, named, ?_,
      fun nonempty => Markdown.heading_prefix_subsection d level (mt named.mp nonempty)⟩
    · have kept := endsFragment_of_mem_declaration member inside
      refine ⟨?_, ?_, ?_⟩ <;> rintro rfl <;> exact absurd kept (by decide)
    · rwa [label_declaration member, beginsImport_oneLine_iff, trim_declaration member]
  · rw [Dialect.convert, String.toList_ofList, Markdown.document_eq_flatten]
  · intro c member
    obtain ⟨brace, semicolon, unbroken⟩ := of_mem_label member
    refine ⟨brace, semicolon, ?_, ?_, ?_⟩ <;> rintro rfl <;> exact absurd unbroken (by decide)

/-- A declaration over two lines whose first word only begins with the word of an import statement,
behind a comment in front of a brace. -/
theorem labels_of_documentedIn_imports :
    ⟨"imports\n\tx".toList, "* B. ".toList⟩ ∈
        documentedIn "/** A. */ \x7b /** B. */ imports\n\tx/".toList ∧
      label "imports\n\tx".toList = Text.oneLine "imports\n\tx".toList ∧
      Text.oneLine "imports\n\tx".toList = "imports x".toList ∧
      (Dialect.plain.convert "/** A. */ \x7b /** B. */ imports\n\tx/" 1).toList =
        Markdown.title 1 ++
          Markdown.subsection .plain 1 ⟨"imports\n\tx".toList, "* B. ".toList⟩ ++ ['\n'] := by
  have found : documentedIn "/** A. */ \x7b /** B. */ imports\n\tx/".toList =
      [⟨[], "* A. ".toList⟩, ⟨"imports\n\tx".toList, "* B. ".toList⟩] := by
    have first : Block.next? "/** A. */ \x7b /** B. */ imports\n\tx/".toList =
        some (⟨[], " A. ".toList, [' ']⟩, "\x7b /** B. */ imports\n\tx/".toList) := by decide
    have second : Block.next? "\x7b /** B. */ imports\n\tx/".toList =
        some (⟨"\x7b ".toList, " B. ".toList, " imports\n\tx".toList⟩, ['/']) := by decide
    have tail : Block.next? ['/'] = none := by decide
    rw [documentedIn_eq, first]
    dsimp only
    rw [documentedIn_eq, second]
    dsimp only
    rw [documentedIn_eq, tail]
    decide
  have member : ⟨"imports\n\tx".toList, "* B. ".toList⟩ ∈
      documentedIn "/** A. */ \x7b /** B. */ imports\n\tx/".toList :=
    found ▸ List.mem_cons_of_mem _ List.mem_cons_self
  obtain ⟨each, shown, -⟩ :=
    labels_of_documentedIn .plain "/** A. */ \x7b /** B. */ imports\n\tx/" 1
  refine ⟨member, (each _ member).2.2.2.1, by decide, ?_⟩
  rw [shown, found]
  simp

end DocMarkdown
