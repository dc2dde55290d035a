import DocMarkdown.Proofs.Comment.Prose
import DocMarkdown.Proofs.Layout
import DocMarkdown.Proofs.Source.Concatenation

/-!
# Comments on one line

A short comment may be written on one line, without the marker that starts the lines of longer ones.
It is given a marker if its body has none, and then says what the same text says on a line of its
own. But the whole body is looked at, not its beginning. A text with a marker somewhere inside gets
no other one in front, so its only line carries none, and the comment says nothing.

## Main definitions

* `IsRemark` — a text that may be written on one line of a comment
* `onOneLine`, `onOwnLine` — the two ways to write it

## Main results

* `document_comment_congr` — comments that say the same may be exchanged
* `ofText_onOneLine`, `ofText_onOneLine_of_mem` — what a comment on one line says
* `convert_onOneLine` — the documents of the two ways
* `convert_onOneLine_starred` — a text with a marker inside, for which they differ
-/

namespace DocMarkdown

variable {body body' t : Text}

/-! ### A comment at the front of a text -/

/-- A comment may be exchanged for another one that says the same. -/
theorem document_comment_congr (unclosed : ¬ Block.closing <:+: body)
    (unclosed' : ¬ Block.closing <:+: body')
    (same : Comment.ofText (markParagraphs body) = Comment.ofText (markParagraphs body'))
    (d : Dialect) (level : Nat) (rest : Text) :
    Markdown.document d level (documentedIn (Block.opening ++ body ++ Block.closing ++ rest)) =
      Markdown.document d level
        (documentedIn (Block.opening ++ body' ++ Block.closing ++ rest)) := by
  have own : ∀ fragment : Text,
      (Documented.ofBlock? ⟨[], body, fragment⟩).toList.flatMap (Markdown.subsection d level) =
        (Documented.ofBlock? ⟨[], body', fragment⟩).toList.flatMap
          (Markdown.subsection d level) := by
    intro fragment
    simp only [Documented.ofBlock?]
    split
    · rfl
    · simp only [Option.toList_some, List.flatMap_singleton, subsection_congr rfl same]
  rw [documentedIn_comment_append unclosed, documentedIn_comment_append unclosed',
    Markdown.document, Markdown.document, List.flatMap_append, List.flatMap_append, own]

/-! ### What a comment on one line says -/

/-- A text that may be written on one line of a comment: it does not end the line or the comment,
and begins with a visible character that is not a marker. -/
structure IsRemark (t : Text) : Prop where
  feed_not_mem : '\n' ∉ t
  unclosed : ¬ Block.closing <:+: t
  begins : ∃ c u, Text.isBlank c = false ∧ c ≠ marker ∧ t = c :: u

theorem Comment.ofLines_void_void (line : Line) :
    ofLines [.void, line, .void] = ofLines [line] := by
  cases line <;> rfl

theorem Comment.ofLines_singleton_congr {line line' : Line} (h : line.trimEnd = line'.trimEnd) :
    ofLines [line] = ofLines [line'] := by
  rw [← ofLines_map_trimEnd [line], ← ofLines_map_trimEnd [line'], List.map_singleton,
    List.map_singleton, h]

/-- A text without markers says the same on one line as it does on a line of its own. -/
theorem ofText_onOneLine (feedless : '\n' ∉ t) (unmarked : marker ∉ t) :
    Comment.ofText (markParagraphs (' ' :: t ++ [' '])) =
      Comment.ofText (markParagraphs ("\n * ".toList ++ t ++ "\n ".toList)) := by
  -- On one line the marker is put in front, on its own line it stands behind the indentation.
  have absent : marker ∉ ' ' :: t ++ [' '] := by
    simp only [List.cons_append, List.mem_cons, List.mem_append, List.not_mem_nil, or_false, not_or]
    exact ⟨by decide, unmarked, by decide⟩
  have single : withMarker (' ' :: t ++ [' ']) = "* ".toList ++ t ++ [' '] :=
    withMarker_of_not_mem absent
  have several : withMarker ("\n * ".toList ++ t ++ "\n ".toList) =
      "\n * ".toList ++ t ++ "\n ".toList := withMarker_of_mem (by simp [marker])
  have one : Text.lines ("* ".toList ++ t ++ [' ']) = ["* ".toList ++ t ++ [' ']] :=
    Text.lines_of_not_mem (by simp [feedless])
  have three : Text.lines ("\n * ".toList ++ t ++ "\n ".toList) =
      [[], " * ".toList ++ t, [' ']] := by
    have split : "\n * ".toList ++ t ++ "\n ".toList =
        '\n' :: (" * ".toList ++ t) ++ '\n' :: [' '] := rfl
    rw [split, Text.lines_append_cons, Text.lines_cons_feed,
      Text.lines_of_not_mem (by simp [feedless])]
    rfl
  have kind : (Line.ofBody ("* ".toList ++ t ++ [' '])).trimEnd =
      (Line.ofBody (" * ".toList ++ t)).trimEnd := by
    have space : ∀ c ∈ [' '], Text.isTrailing c = true := List.forall_mem_singleton.mpr rfl
    rw [Line.trimEnd_ofBody_append space, ← Line.ofBody_dropWhile_isIndent (" * ".toList ++ t)]
    rfl
  calc Comment.ofText (markParagraphs (' ' :: t ++ [' ']))
      = .ofLines [Line.ofBody ("* ".toList ++ t ++ [' '])] := by
        rw [Comment.ofText_markParagraphs, single, one, List.map_singleton]
    _ = .ofLines [Line.ofBody (" * ".toList ++ t)] := Comment.ofLines_singleton_congr kind
    _ = .ofLines [.void, Line.ofBody (" * ".toList ++ t), .void] :=
        (Comment.ofLines_void_void _).symm
    _ = Comment.ofText (markParagraphs ("\n * ".toList ++ t ++ "\n ".toList)) := by
        rw [Comment.ofText_markParagraphs, several, three]
        rfl

/-- With a marker inside, a text on one line says nothing, like no text at all. -/
theorem ofText_onOneLine_of_mem (remark : IsRemark t) (marked : marker ∈ t) :
    Comment.ofText (markParagraphs (' ' :: t ++ [' '])) =
      Comment.ofText (markParagraphs [' ']) := by
  obtain ⟨c, u, ink, other, rfl⟩ := remark.begins
  have kept : withMarker (' ' :: (c :: u) ++ [' ']) = ' ' :: (c :: u) ++ [' '] :=
    withMarker_of_mem (List.mem_append_left _ (List.mem_cons_of_mem _ marked))
  have one : Text.lines (' ' :: (c :: u) ++ [' ']) = [' ' :: (c :: u) ++ [' ']] :=
    Text.lines_of_not_mem (by simpa using remark.feed_not_mem)
  -- The line begins with something else than a marker.
  have begins : (' ' :: (c :: u) ++ [' ']).dropWhile Text.isIndent = c :: (u ++ [' ']) := by
    have stops : Text.isIndent c = false :=
      Bool.eq_false_iff.mpr fun h => by simp [Text.isBlank_of_isIndent h] at ink
    have space : Text.isIndent ' ' = true := rfl
    simp [stops, space]
  have kind : Line.ofBody (' ' :: (c :: u) ++ [' ']) = .void := by
    apply Line.ofBody_of_no_marker
    rw [begins, List.head?_cons]
    exact fun same => other (Option.some.inj same)
  have empty : (Text.lines (withMarker [' '])).map Line.ofBody = [.prose paragraphMark] := by decide
  rw [Comment.ofText_markParagraphs, kept, one, List.map_singleton, kind,
    Comment.ofText_markParagraphs, empty]
  exact congrArg (Comment.mk · []) (description_nil.trans description_paragraphMark.symm)

/-! ### Documents -/

/-- A text written on the one line of a comment, and the code after it. -/
def onOneLine (text code : String) : String := "/** " ++ text ++ " */ " ++ code

/-- A text written on a line of its own in a comment, and the code after it. -/
def onOwnLine (text code : String) : String := "/**\n * " ++ text ++ "\n */ " ++ code

theorem toList_onOneLine (text code : String) :
    (onOneLine text code).toList =
      Block.opening ++ (' ' :: text.toList ++ [' ']) ++ Block.closing ++ ' ' :: code.toList := by
  simp [onOneLine, Block.opening, Block.closing]

theorem toList_onOwnLine (text code : String) :
    (onOwnLine text code).toList =
      Block.opening ++ ("\n * ".toList ++ text.toList ++ "\n ".toList) ++ Block.closing ++
        ' ' :: code.toList := by
  simp [onOwnLine, Block.opening, Block.closing]

theorem Languages.convert_congr {languages : Languages} {code other : String} {level : Nat}
    (same : ∀ d : Dialect, Markdown.document d level (documentedIn code.toList) =
      Markdown.document d level (documentedIn other.toList)) (language : String) :
    languages.convert language code level = languages.convert language other level := by
  have same' : (·.convert code level) = fun d : Dialect => d.convert other level := by
    funext d
    rw [Dialect.convert, Dialect.convert, same]
  rw [Languages.convert, same', Languages.convert]

theorem IsRemark.unclosed_onOneLine (h : IsRemark t) : ¬ Block.closing <:+: ' ' :: t ++ [' '] := by
  have split : ' ' :: t ++ [' '] = [] ++ ' ' :: (t ++ ' ' :: []) := rfl
  have empty : ¬ Block.closing <:+: [] := by decide
  rw [split, Text.infix_append_cons_iff (by decide), Text.infix_append_cons_iff (by decide)]
  simp only [empty, h.unclosed, or_self, not_false_iff]

theorem IsRemark.unclosed_onOwnLine (h : IsRemark t) :
    ¬ Block.closing <:+: "\n * ".toList ++ t ++ "\n ".toList := by
  have split : "\n * ".toList ++ t ++ "\n ".toList = "\n *".toList ++ ' ' :: (t ++ '\n' :: [' ']) :=
    rfl
  have front : ¬ Block.closing <:+: "\n *".toList := by decide
  have back : ¬ Block.closing <:+: [' '] := by decide
  rw [split, Text.infix_append_cons_iff (by decide), Text.infix_append_cons_iff (by decide)]
  simp only [front, back, h.unclosed, or_self, not_false_iff]

/-- A comment says the same on one line as on a line of its own if no marker is in its text. With a
marker inside, a comment on one line says nothing: the document is that of an empty comment. -/
theorem convert_onOneLine (languages : Languages) (language : String) (level : Nat) {text : String}
    (remark : IsRemark text.toList) (code : String) :
    (marker ∉ text.toList →
      languages.convert language (onOneLine text code) level =
        languages.convert language (onOwnLine text code) level) ∧
    (marker ∈ text.toList →
      languages.convert language (onOneLine text code) level =
        languages.convert language ("/** */ " ++ code) level) := by
  constructor
  · intro unmarked
    apply Languages.convert_congr
    intro d
    rw [toList_onOneLine, toList_onOwnLine]
    exact document_comment_congr remark.unclosed_onOneLine remark.unclosed_onOwnLine
      (ofText_onOneLine remark.feed_not_mem unmarked) d level _
  · intro marked
    have empty : ("/** */ " ++ code).toList =
        Block.opening ++ [' '] ++ Block.closing ++ ' ' :: code.toList := by
      simp [Block.opening, Block.closing]
    apply Languages.convert_congr
    intro d
    rw [toList_onOneLine, empty]
    exact document_comment_congr remark.unclosed_onOneLine (by decide)
      (ofText_onOneLine_of_mem remark marked) d level _

/-- A tag, and a text with a marker inside. -/
theorem convert_onOneLine_tag :
    IsRemark "@return a".toList ∧ marker ∉ "@return a".toList ∧
      Languages.builtIn.convert "phpdoc" (onOneLine "@return a" "f() \x7b\x7d") 1 =
        Languages.builtIn.convert "phpdoc" (onOwnLine "@return a" "f() \x7b\x7d") 1 ∧
      IsRemark "a * b".toList ∧ marker ∈ "a * b".toList ∧
      Languages.builtIn.convert "phpdoc" (onOneLine "a * b" "f() \x7b\x7d") 1 =
        Languages.builtIn.convert "phpdoc" ("/** */ " ++ "f() \x7b\x7d") 1 := by
  have tag : IsRemark "@return a".toList :=
    ⟨by decide, by decide, '@', "return a".toList, by decide, by decide, rfl⟩
  have starred : IsRemark "a * b".toList :=
    ⟨by decide, by decide, 'a', " * b".toList, by decide, by decide, rfl⟩
  have unmarked : marker ∉ "@return a".toList := by decide
  have marked : marker ∈ "a * b".toList := by decide
  exact ⟨tag, unmarked, (convert_onOneLine .builtIn "phpdoc" 1 tag "f() \x7b\x7d").1 unmarked,
    starred, marked, (convert_onOneLine .builtIn "phpdoc" 1 starred "f() \x7b\x7d").2 marked⟩

/-- With a marker inside its text, a comment does not say the same on one line as on a line of its
own. -/
theorem convert_onOneLine_starred :
    Languages.builtIn.convert "javadoc" (onOneLine "a * b" "int x;") 1 =
        .ok "# Documentation\n\n## `int x`\n" ∧
      Languages.builtIn.convert "javadoc" (onOwnLine "a * b" "int x;") 1 =
        .ok "# Documentation\n\n## `int x`\n\na * b\n" := by
  have registered : Languages.builtIn.find "javadoc" = .ok .plain := rfl
  have tail : Block.next? [';'] = none := by decide
  have converts : ∀ {code : String} {body : Text},
      code.toList = Block.opening ++ body ++ Block.closing ++ " int x;".toList →
      ¬ Block.closing <:+: body →
      Languages.builtIn.convert "javadoc" code 1 = .ok (String.ofList
        (Markdown.document .plain 1 [⟨"int x".toList, markParagraphs body⟩])) := by
    intro code body written unclosed
    have rest : " int x;".toList.dropWhile (!Block.endsFragment ·) = [';'] := by decide
    have documented : documentedIn code.toList = [⟨"int x".toList, markParagraphs body⟩] := by
      rw [written, documentedIn_comment_append unclosed, rest, documentedIn_eq [';'], tail]
      rfl
    exact Languages.convert_of_documentedIn registered documented 1
  have silent : Comment.ofText (markParagraphs (' ' :: "a * b".toList ++ [' '])) = ⟨[], []⟩ :=
    congrArg (Comment.mk · []) description_nil
  have said : Comment.ofText (markParagraphs ("\n * ".toList ++ "a * b".toList ++ "\n ".toList)) =
      ⟨"a * b".toList, []⟩ := by
    have prose : IsProse (Text.tidy "a * b".toList) := by decide
    exact congrArg (Comment.mk · []) (description_singleton prose)
  have one : Markdown.document .plain 1
      [⟨"int x".toList, markParagraphs (' ' :: "a * b".toList ++ [' '])⟩] =
        "# Documentation\n\n## `int x`\n".toList := by
    rw [Markdown.document_singleton_of_tagless _ _ (by decide) (by rw [silent]), silent]
    decide
  have own : Markdown.document .plain 1
      [⟨"int x".toList, markParagraphs ("\n * ".toList ++ "a * b".toList ++ "\n ".toList)⟩] =
        "# Documentation\n\n## `int x`\n\na * b\n".toList := by
    rw [Markdown.document_singleton_of_tagless _ _ (by decide) (by rw [said]), said]
    decide
  constructor
  · rw [converts (toList_onOneLine _ _) (by decide), one, String.ofList_toList]
  · rw [converts (toList_onOwnLine _ _) (by decide), own, String.ofList_toList]

end DocMarkdown
