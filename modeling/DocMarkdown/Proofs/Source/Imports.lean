import DocMarkdown.Proofs.Comment.Prose
import DocMarkdown.Proofs.Source.Concatenation
import DocMarkdown.Proofs.Text.Trimming

/-!
# Import statements

A comment before an import statement belongs to the file and documents nothing. A fragment is looked
at after it has been cut where a body, the end of a statement or another comment begins, and after
it has been trimmed. So the blank that tells an import statement by its word is still there if
something visible stands between the word and the cut. If nothing does, only the word is left, and
it is shown as the name of a declaration.

## Main results

* `trim_import` — what is left of a fragment that starts with the word and a blank
* `ofBlock?_import` — when a block before an import statement documents nothing
* `convert_import` — the document of a source text with an import statement in it
* `convert_bracedImport` — an import statement that is shown as a declaration
-/

namespace DocMarkdown

variable {b : Block} {before after : List Block} {margin rest tail u : Text} {c : Char}

namespace Block

theorem endsFragment_of_isBlank (h : Text.isBlank c = true) : endsFragment c = false := by
  rw [Bool.eq_false_iff]
  intro ends
  simp only [endsFragment, Bool.or_eq_true, beq_iff_eq] at ends
  rcases ends with (rfl | rfl) | rfl <;> exact absurd h (by decide)

/-- A fragment is blank from some place on if there is nothing behind the blanks there, or what ends
the fragment. -/
theorem blank_takeWhile_iff (t : Text) :
    Text.blank (t.takeWhile (!endsFragment ·)) = true ↔ Follows (Text.trimStart t) := by
  have inside : ∀ {a : Text}, Text.blank a = true → ∀ c ∈ a, (!endsFragment c) = true := by
    intro a ha c hc
    rw [endsFragment_of_isBlank (Text.blank_iff.mp ha c hc)]
    rfl
  rcases Text.blank_or_eq_append t with all | ⟨a, c, u, ha, ink, rfl⟩
  · rw [List.takeWhile_eq_self_iff.mpr (inside all), Text.trimStart_of_blank all]
    exact iff_of_true all (by simp [Follows])
  · -- The first visible character either ends the fragment or is in it.
    rw [List.takeWhile_append_of_pos (inside ha), Text.trimStart_append_of_blank ha,
      Text.trimStart_cons_of_not_blank ink, Text.blank_append, ha, Bool.true_and]
    cases ends : endsFragment c with
    | true => simp [Follows, ends]
    | false => simp [Follows, ends, ink]

end Block

/-- What is left of a fragment that starts with the word and a blank: the word if nothing visible
follows, and else everything from the word to the last visible character. -/
theorem trim_import (blankMargin : Text.blank margin = true) (blankAfter : Text.isBlank c = true)
    (u : Text) :
    Text.trim (margin ++ "import".toList ++ c :: u) =
      "import".toList ++ if Text.blank u then [] else c :: Text.trimEnd u := by
  have begins : ∀ v : Text,
      Text.trim (margin ++ "import".toList ++ v) = Text.trimEnd ("import".toList ++ v) := by
    intro v
    rw [List.append_assoc, Text.trim_blank_append blankMargin, Text.trim]
    rfl
  rw [begins]
  rcases Text.blank_or_eq_append_blank u with all | ⟨a, x, w, ink, hw, rfl⟩
  · rw [if_pos all, Text.trimEnd_append_of_blank (by simp [blankAfter, all])]
    decide
  · have visible : Text.blank (a ++ x :: w) = false := by simp [ink]
    have whole : "import".toList ++ c :: (a ++ x :: w) =
        ("import".toList ++ c :: a) ++ x :: w := by simp
    rw [visible, whole, Text.trimEnd_append_cons ink hw, Text.trimEnd_append_cons ink hw]
    simp

/-- A block before an import statement documents nothing, unless the word is left by itself. -/
theorem ofBlock?_import (blankMargin : Text.blank margin = true)
    (blankAfter : Text.isBlank c = true)
    (fragment : b.fragment = margin ++ "import".toList ++ c :: u) :
    Documented.ofBlock? b =
      if Text.blank u then some ⟨"import".toList, markParagraphs b.body⟩ else none := by
  rw [Documented.ofBlock?, fragment, trim_import blankMargin blankAfter]
  cases Text.blank u with
  | true =>
    -- No blank is left behind the word.
    rw [if_pos rfl, if_pos rfl, List.append_nil]
    exact if_neg (by decide)
  | false =>
    rw [if_neg Bool.false_ne_true, if_neg Bool.false_ne_true]
    exact if_pos (isImport_iff.mpr ⟨c, Text.trimEnd u, blankAfter, rfl⟩)

/-- A block among others keeps to its marks, and what follows it ends its fragment. -/
theorem Source.Grammatical.block_of_append
    (h : Source.Grammatical ⟨before ++ b :: after, tail⟩) :
    b.Delimited ∧ Block.Follows (Source.text ⟨after, tail⟩) := by
  induction before with
  | nil =>
    cases h with
    | block delimited follows _ => exact ⟨delimited, follows⟩
  | cons other before ih =>
    cases h with
    | block _ _ others => exact ih others

/-- The fragment of a block, from the text that follows its comment. -/
theorem Source.fragment_of_append {code : Text}
    (found : Source.ofText code = ⟨before ++ b :: after, tail⟩) :
    b.fragment = (b.fragment ++ Source.text ⟨after, tail⟩).takeWhile (!Block.endsFragment ·) := by
  have grammatical := Source.grammatical_ofText code
  rw [found] at grammatical
  obtain ⟨delimited, follows⟩ := grammatical.block_of_append
  exact (Block.takeWhile_fragment delimited.fragment follows).1.symm

/-- The fragment of a block before an import statement runs up to what ends it. -/
theorem Source.fragment_import {code : Text}
    (found : Source.ofText code = ⟨before ++ b :: after, tail⟩)
    (blankMargin : Text.blank margin = true) (blankAfter : Text.isBlank c = true)
    (statement : b.fragment ++ Source.text ⟨after, tail⟩ = margin ++ "import".toList ++ c :: rest) :
    b.fragment = margin ++ "import".toList ++ c :: rest.takeWhile (!Block.endsFragment ·) := by
  have inside : ∀ x ∈ margin ++ "import".toList ++ [c], (!Block.endsFragment x) = true := by
    intro x hx
    simp only [List.mem_append, List.mem_singleton] at hx
    rcases hx with (hx | hx) | rfl
    · simp [Block.endsFragment_of_isBlank (Text.blank_iff.mp blankMargin x hx)]
    · have letters : "import".toList.all (!Block.endsFragment ·) = true := by decide
      exact List.all_eq_true.mp letters x hx
    · simp [Block.endsFragment_of_isBlank blankAfter]
  have split : ∀ v : Text,
      margin ++ "import".toList ++ c :: v = (margin ++ "import".toList ++ [c]) ++ v := by simp
  rw [Source.fragment_of_append found, statement, split, List.takeWhile_append_of_pos inside,
    ← split]

/-- An import statement gets no subsection if something visible stands between its word and the
place where its fragment is cut: the source text documents what its other blocks do. If nothing
does, the word is documented as a declaration, and the document has a heading for it. -/
theorem convert_import {languages : Languages} {language : String} {d : Dialect}
    (registered : languages.find language = .ok d) (level : Nat) {code : String}
    (found : Source.ofText code.toList = ⟨before ++ b :: after, tail⟩)
    (blankMargin : Text.blank margin = true) (blankAfter : Text.isBlank c = true)
    (statement : b.fragment ++ Source.text ⟨after, tail⟩ =
      margin ++ "import".toList ++ c :: rest) :
    (¬ Block.Follows (Text.trimStart rest) →
      documentedIn code.toList = (before ++ after).filterMap Documented.ofBlock? ∧
        languages.convert language code level =
          .ok (String.ofList (Markdown.document d level
            ((before ++ after).filterMap Documented.ofBlock?)))) ∧
    (Block.Follows (Text.trimStart rest) →
      documentedIn code.toList = before.filterMap Documented.ofBlock? ++
        ⟨"import".toList, markParagraphs b.body⟩ :: after.filterMap Documented.ofBlock? ∧
      ∃ document : Text, languages.convert language code level = .ok (String.ofList document) ∧
        Markdown.heading (level + 1) (inlineCode "import".toList) <:+: document) := by
  have fragment := Source.fragment_import found blankMargin blankAfter statement
  have own := ofBlock?_import blankMargin blankAfter fragment
  have whole : documentedIn code.toList = before.filterMap Documented.ofBlock? ++
      ((Documented.ofBlock? b).toList ++ after.filterMap Documented.ofBlock?) := by
    rw [documentedIn, found, List.filterMap_append]
    cases ofBlock : Documented.ofBlock? b <;> simp [ofBlock]
  constructor
  · intro visible
    rw [own, if_neg (mt (Block.blank_takeWhile_iff rest).mp visible)] at whole
    rw [Option.toList_none, List.nil_append, ← List.filterMap_append] at whole
    exact ⟨whole, Languages.convert_of_documentedIn registered whole level⟩
  · intro bare
    rw [own, if_pos ((Block.blank_takeWhile_iff rest).mpr bare)] at whole
    rw [Option.toList_some, List.singleton_append] at whole
    have named : label "import".toList = "import".toList := by decide
    have member : ⟨"import".toList, markParagraphs b.body⟩ ∈ documentedIn code.toList :=
      whole ▸ List.mem_append_right _ List.mem_cons_self
    have shown := Markdown.heading_infix_document d level member (named ▸ List.cons_ne_nil _ _)
    rw [named] at shown
    exact ⟨whole, _, Languages.convert_of_documentedIn registered rfl level, shown⟩

/-- An import statement that names a package, before another block. -/
theorem convert_import_package :
    Languages.builtIn.find "javadoc" = .ok .plain ∧
      Source.ofText "/** A. */\nimport b.C; /** D. */ int e".toList =
        ⟨[] ++ ⟨[], " A. ".toList, "\nimport b.C".toList⟩ ::
          [⟨"; ".toList, " D. ".toList, " int e".toList⟩], []⟩ ∧
      documentedIn "/** A. */\nimport b.C; /** D. */ int e".toList =
        [⟨"int e".toList, "* D. ".toList⟩] := by
  have registered : Languages.builtIn.find "javadoc" = .ok .plain := rfl
  have first : Block.next? "/** A. */\nimport b.C; /** D. */ int e".toList =
      some (⟨[], " A. ".toList, "\nimport b.C".toList⟩, "; /** D. */ int e".toList) := by decide
  have second : Block.next? "; /** D. */ int e".toList =
      some (⟨"; ".toList, " D. ".toList, " int e".toList⟩, []) := by decide
  have found : Source.ofText "/** A. */\nimport b.C; /** D. */ int e".toList =
      ⟨[] ++ ⟨[], " A. ".toList, "\nimport b.C".toList⟩ ::
        [⟨"; ".toList, " D. ".toList, " int e".toList⟩], []⟩ := by
    rw [Source.ofText_of_some first, Source.ofText_of_some second, Source.ofText_of_none rfl]
    rfl
  have statement : "\nimport b.C".toList ++ Source.text
      ⟨[⟨"; ".toList, " D. ".toList, " int e".toList⟩], []⟩ =
        ['\n'] ++ "import".toList ++ ' ' :: "b.C; /** D. */ int e".toList := by decide
  have visible : ¬ Block.Follows (Text.trimStart "b.C; /** D. */ int e".toList) := by
    rw [← Block.blank_takeWhile_iff]
    decide
  have shown := convert_import registered 1 found (by decide) (by decide) statement
  exact ⟨registered, found, (shown.1 visible).1⟩

/-- Where a brace stands next to the word of an import statement, the word is shown as a
declaration. -/
theorem convert_bracedImport :
    documentedIn "/** A. */ import \x7b a \x7d from 'b';".toList =
        [⟨"import".toList, "* A. ".toList⟩] ∧
      Languages.builtIn.convert "jsdoc" "/** A. */ import \x7b a \x7d from 'b';" 1 =
        .ok "# Documentation\n\n## `import`\n\nA.\n" := by
  have block : Block.next? "/** A. */ import \x7b a \x7d from 'b';".toList =
      some (⟨[], " A. ".toList, " import ".toList⟩, "\x7b a \x7d from 'b';".toList) := by decide
  have tail : Block.next? "\x7b a \x7d from 'b';".toList = none := by decide
  have found : documentedIn "/** A. */ import \x7b a \x7d from 'b';".toList =
      [⟨"import".toList, "* A. ".toList⟩] := by
    rw [documentedIn_eq, block]
    dsimp only
    rw [documentedIn_eq, tail]
    decide
  have said : Comment.ofText "* A. ".toList = ⟨"A.".toList, []⟩ := by
    have prose : IsProse (Text.tidy "A. ".toList) := by decide
    exact congrArg (Comment.mk · []) (description_singleton prose)
  have shown : Markdown.document (.typed .braces) 1 [⟨"import".toList, "* A. ".toList⟩] =
      "# Documentation\n\n## `import`\n\nA.\n".toList := by
    rw [Markdown.document_singleton_of_tagless _ _ (by decide) (by rw [said]), said]
    decide
  have registered : Languages.builtIn.find "jsdoc" = .ok (.typed .braces) := rfl
  refine ⟨found, ?_⟩
  rw [Languages.convert_of_documentedIn registered found, shown, String.ofList_toList]

end DocMarkdown
