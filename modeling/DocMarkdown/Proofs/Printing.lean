import DocMarkdown.Proofs.Comment.Writing
import DocMarkdown.Proofs.Source.Grammar

/-!
# Printing documented declarations

A documented declaration may be printed the way source files show it: a comment with a line for each
line of its paragraphs and tags, and the declaration up to the start of its body. Whatever such
declarations are printed one after the other, the same declarations are found in the printout, and
their comments say the same.

## Main definitions

* `IsDescriptionLine` — a line that may be written in a paragraph
* `Annotated` — a declaration with its comment in lines
* `Annotated.print` — the declaration and the comment, as source files show them
* `Annotated.comment` — what the comment says

## Main results

* `ofText_body` — the printed comment is read back
* `documentedIn_print_append` — a printed declaration is the first one to be found
* `documentedIn_flatMap_print` — printed declarations are found again
-/

namespace DocMarkdown

/-- A line of a paragraph: it opens no tag, and nothing in it is marked up. -/
@[mk_iff]
structure IsDescriptionLine (l : Text) : Prop extends IsProse l, IsCommentLine l where
  head?_ne_at : l.head? ≠ some '@'

instance : DecidablePred IsDescriptionLine :=
  fun l => decidable_of_iff _ (isDescriptionLine_iff l).symm

/-- A declaration with its comment in lines. The declaration is trimmed, ends before any body,
statement end or comment, and is no import statement. -/
structure Annotated where
  declaration : Text
  paragraphs : List (List Text)
  tags : List TagLines
  trim_eq_self : Text.trim declaration = declaration := by decide
  ends_not_mem : '{' ∉ declaration ∧ ';' ∉ declaration ∧ '/' ∉ declaration := by decide
  not_beginsImport : ¬ BeginsImport declaration := by decide
  paragraphs_ne_nil : [] ∉ paragraphs := by decide
  isDescriptionLine : ∀ p ∈ paragraphs, ∀ l ∈ p, IsDescriptionLine l := by decide

namespace Annotated

variable (a : Annotated)

/-- The lines between the marks of the comment: an empty one between paragraphs, and then the
tags. -/
def lines : List Text :=
  [" *".toList].intercalate (a.paragraphs.map (·.map (" * ".toList ++ ·))) ++
    a.tags.flatMap TagLines.lines

/-- The declaration and its comment, as source files show them. -/
def print : Text :=
  "/**\n".toList ++ a.lines.flatMap (· ++ ['\n']) ++ " */\n".toList ++ a.declaration ++
    " \x7b\n".toList

-- Tags may have their values on the line of the key, below it, or both.
example : print
    { declaration := "int f(int x)".toList
      paragraphs := [["See @f, **".toList, "/** not \x7b here;".toList], ["Two.".toList]]
      tags := [{ key := "param".toList, first := some "@x <p>".toList, others := ["more".toList] },
        { key := "See".toList, first := none, others := [] }] } =
    ("/**\n * See @f, **\n * /** not \x7b here;\n *\n * Two.\n" ++
      " * @param @x <p>\n *     more\n * @See \n */\nint f(int x) \x7b\n").toList := by decide

/-- What the comment says: paragraphs of running text between empty lines, and the tags. -/
def comment : Comment :=
  ⟨['\n', '\n'].intercalate (a.paragraphs.map [' '].intercalate), a.tags.map TagLines.tag⟩

/-- The text between the marks of the printed comment. -/
def body : Text := '\n' :: a.lines.flatMap (· ++ ['\n']) ++ [' ']

/-- The text between the printed comment and the start of the declaration's body. -/
def fragment : Text := '\n' :: a.declaration ++ [' ']

theorem print_eq (rest : Text) :
    a.print ++ rest = (Block.mk [] a.body a.fragment).text ++ ('{' :: '\n' :: rest) := by
  have whole : a.print = Block.opening ++ ['\n'] ++ a.lines.flatMap (· ++ ['\n']) ++
      ([' '] ++ Block.closing ++ ['\n']) ++ a.declaration ++ [' ', '{', '\n'] := rfl
  rw [whole, Block.text, body, fragment]
  simp only [List.append_assoc, List.cons_append, List.nil_append]

end Annotated

/-! ### The lines of a printed comment -/

/-- A text that may be a line of a comment: it does not end there, and neither does the comment. -/
structure IsBodyLine (l : Text) : Prop where
  feed_not_mem : '\n' ∉ l
  unclosed : ¬ Block.closing <:+: l

variable {a b l t : Text} {ls : List Text}

theorem IsCommentLine.isBodyLine (h : IsCommentLine l) : IsBodyLine l :=
  ⟨h.feed_not_mem, h.unclosed⟩

theorem IsBodyLine.append_space_append (ha : IsBodyLine a) (hb : IsBodyLine b) :
    IsBodyLine (a ++ ' ' :: b) := by
  constructor
  · simp [ha.feed_not_mem, hb.feed_not_mem]
  · rw [Text.infix_append_cons_iff (by decide), not_or]
    exact ⟨ha.unclosed, hb.unclosed⟩

theorem isBodyLine_nil : IsBodyLine [] := ⟨by decide, by decide⟩

/-- A key after its mark cannot close a comment: there is no marker in it. -/
theorem TagLines.isBodyLine_key (t : TagLines) : IsBodyLine ('@' :: t.key) := by
  -- Every character of the key is a letter, and neither a line feed nor a marker is one.
  have other : ∀ c : Char, c.isAlpha = false → c ≠ '@' → c ∉ '@' :: t.key := by
    intro c symbol notAt inside
    rcases List.mem_cons.mp inside with same | inside
    · exact notAt same
    · rw [t.isAlpha_of_mem_key c inside] at symbol
      cases symbol
  refine ⟨other '\n' (by decide) (by decide), fun closed => ?_⟩
  exact other marker (by decide) (by decide) (closed.subset (by decide))

theorem TagLines.isBodyLine_of_mem_lines (t : TagLines) (h : l ∈ t.lines) : IsBodyLine l := by
  have value : IsBodyLine (t.first.getD []) := by
    cases first : t.first with
    | none => exact isBodyLine_nil
    | some v => exact (t.isCommentLine_first v first).isBodyLine
  have marked : IsBodyLine " *".toList := ⟨by decide, by decide⟩
  have indented : IsBodyLine " *    ".toList := ⟨by decide, by decide⟩
  rcases List.mem_cons.mp h with rfl | h
  · exact (marked.append_space_append t.isBodyLine_key).append_space_append value
  · obtain ⟨v, hv, rfl⟩ := List.mem_map.mp h
    exact indented.append_space_append (t.isValueLine_others v hv).isBodyLine

namespace Annotated

theorem isBodyLine_of_mem_lines (a : Annotated) (h : l ∈ a.lines) : IsBodyLine l := by
  have marked : IsBodyLine " *".toList := ⟨by decide, by decide⟩
  rcases List.mem_append.mp h with h | h
  · rcases Text.mem_or_mem_of_mem_intercalate h with h | ⟨group, hg, h⟩
    · rwa [List.mem_singleton.mp h]
    · obtain ⟨p, hp, rfl⟩ := List.mem_map.mp hg
      obtain ⟨v, hv, rfl⟩ := List.mem_map.mp h
      exact marked.append_space_append (a.isDescriptionLine p hp v hv).isBodyLine
  · obtain ⟨t, -, h⟩ := List.mem_flatMap.mp h
    exact t.isBodyLine_of_mem_lines h

/-- The comment does not end before its last line does. -/
theorem unclosed_body (a : Annotated) : ¬ Block.closing <:+: a.body := by
  have key : ∀ ls : List Text, (∀ l ∈ ls, IsBodyLine l) →
      ¬ Block.closing <:+: ls.flatMap (· ++ ['\n']) ++ [' '] := by
    intro ls bodyLines
    induction ls with
    | nil => decide
    | cons l ls ih =>
      -- The closing mark cannot reach across the line feed.
      rw [List.flatMap_cons, List.append_assoc, List.append_assoc, List.singleton_append,
        Text.infix_append_cons_iff (by decide), not_or]
      exact ⟨(bodyLines l List.mem_cons_self).unclosed,
        ih fun u hu => bodyLines u (List.mem_cons_of_mem l hu)⟩
  -- The body begins with an empty line, the one of the opening mark.
  apply key ([] :: a.lines)
  intro l hl
  rcases List.mem_cons.mp hl with rfl | hl
  · exact isBodyLine_nil
  · exact a.isBodyLine_of_mem_lines hl

/-! ### Reading a printed comment -/

/-- The kinds of the lines that a comment is written in. -/
def kinds (a : Annotated) : List Line :=
  ([paragraphMark].intercalate a.paragraphs).map .prose ++ a.tags.flatMap TagLines.kinds

theorem map_ofBody_lines (a : Annotated) : a.lines.map Line.ofBody = a.kinds := by
  have prose : a.paragraphs.map ((·.map Line.ofBody) ∘ (·.map (" * ".toList ++ ·))) =
      a.paragraphs.map (·.map .prose) := by
    refine List.map_congr_left fun p hp => ?_
    rw [Function.comp_apply, List.map_map]
    refine List.map_congr_left fun l hl => ?_
    have line := a.isDescriptionLine p hp l hl
    have indent : ∀ c ∈ " ".toList, Text.isIndent c = true := List.all_eq_true.mp rfl
    exact Line.ofBody_margin_append (List.cons_ne_nil _ _) indent line.isSolid line.head?_ne_at
  have mark : [" *".toList].map Line.ofBody = [paragraphMark].map .prose := by decide
  rw [lines, kinds, List.map_append, Text.map_intercalate, Text.map_intercalate, mark, List.map_map,
    prose, List.map_flatMap]
  simp only [TagLines.map_ofBody_lines]

theorem lines_body (a : Annotated) : Text.lines a.body = [] :: a.lines ++ [[' ']] := by
  have free : ∀ l ∈ [] :: a.lines, '\n' ∉ l := by
    intro l hl
    rcases List.mem_cons.mp hl with rfl | hl
    · exact List.not_mem_nil
    · exact (a.isBodyLine_of_mem_lines hl).feed_not_mem
  exact Text.lines_flatMap_append free [' ']

theorem marker_mem_of_mem_lines (a : Annotated) (h : l ∈ a.lines) : marker ∈ l := by
  rcases List.mem_append.mp h with h | h
  · rcases Text.mem_or_mem_of_mem_intercalate h with h | ⟨group, hg, h⟩
    · rw [List.mem_singleton.mp h]
      decide
    · obtain ⟨p, -, rfl⟩ := List.mem_map.mp hg
      obtain ⟨v, -, rfl⟩ := List.mem_map.mp h
      simp [marker]
  · obtain ⟨t, -, h⟩ := List.mem_flatMap.mp h
    rcases List.mem_cons.mp h with rfl | h
    · simp [marker]
    · obtain ⟨v, -, rfl⟩ := List.mem_map.mp h
      simp [marker]

theorem lines_eq_nil_iff (a : Annotated) : a.lines = [] ↔ a.paragraphs = [] ∧ a.tags = [] := by
  constructor
  · intro h
    obtain ⟨noProse, noTags⟩ := List.append_eq_nil_iff.mp h
    constructor
    · by_contra some
      refine Text.intercalate_ne_nil (mt List.map_eq_nil_iff.mp some) (fun inside => ?_) noProse
      obtain ⟨p, hp, none⟩ := List.mem_map.mp inside
      exact a.paragraphs_ne_nil (List.map_eq_nil_iff.mp none ▸ hp)
    · rw [List.flatMap_eq_nil_iff] at noTags
      refine List.eq_nil_iff_forall_not_mem.mpr fun t ht => ?_
      exact absurd (noTags t ht) (List.cons_ne_nil _ _)
  · rintro ⟨noProse, noTags⟩
    simp [lines, noProse, noTags]

/-- A printed comment needs no marker in front, unless it says nothing. -/
theorem withMarker_body (a : Annotated) (some : a.lines ≠ []) : withMarker a.body = a.body := by
  obtain ⟨l, others, same⟩ := List.exists_cons_of_ne_nil some
  have carried : marker ∈ l := a.marker_mem_of_mem_lines (same ▸ List.mem_cons_self)
  have inside : marker ∈ a.body := by simp [body, same, carried]
  rw [withMarker, if_pos (List.contains_iff_mem.mpr inside)]

theorem map_ofBody_lines_body (a : Annotated) :
    (Text.lines a.body).map Line.ofBody = .void :: (a.kinds ++ [.void]) := by
  have first : Line.ofBody [] = .void := rfl
  have last : Line.ofBody [' '] = .void := rfl
  rw [lines_body, List.cons_append, List.map_cons, List.map_append, map_ofBody_lines, first,
    List.map_singleton, last]

/-- Reading lines of these kinds gives the prose, with marks between paragraphs, and the tags. -/
theorem readLines_kinds (a : Annotated) :
    Comment.readLines (.void :: (a.kinds ++ [.void])) =
      ([paragraphMark].intercalate a.paragraphs, a.tags.map TagLines.tag) := by
  rw [Comment.readLines, kinds, List.append_assoc, Comment.readLines_map_prose_append,
    Comment.readLines_flatMap_kinds, List.append_nil]

/-- The printed comment is read back. -/
theorem ofText_body (a : Annotated) : Comment.ofText (markParagraphs a.body) = a.comment := by
  by_cases none : a.lines = []
  · -- The marker that the body gets in front makes it a paragraph mark, of which nothing is left.
    obtain ⟨noProse, noTags⟩ := a.lines_eq_nil_iff.mp none
    have empty : a.body = ['\n', ' '] := by
      rw [body, none]
      rfl
    have kinds : (Text.lines (withMarker ['\n', ' '])).map Line.ofBody =
        [.prose paragraphMark, .void] := by decide
    rw [empty, Comment.ofText_markParagraphs, kinds, Comment.ofLines, comment, noProse, noTags]
    exact congrArg (Comment.mk · []) description_paragraphMark
  · have prose : ∀ p ∈ a.paragraphs, ∀ l ∈ p, IsProse l := by
      intro p hp l hl
      exact (a.isDescriptionLine p hp l hl).toIsProse
    calc Comment.ofText (markParagraphs a.body)
        = .ofLines ((Text.lines (withMarker a.body)).map Line.ofBody) :=
          Comment.ofText_markParagraphs a.body
      _ = .ofLines (.void :: (a.kinds ++ [.void])) := by
          rw [a.withMarker_body none, map_ofBody_lines_body]
      _ = ⟨description ([paragraphMark].intercalate a.paragraphs), a.tags.map TagLines.tag⟩ := by
          rw [Comment.ofLines, readLines_kinds]
      _ = a.comment := by rw [description_paragraphs a.paragraphs_ne_nil prose, comment]

/-! ### Finding printed declarations -/

theorem delimited {gap : Text} (a : Annotated) (free : ¬ Block.opening <:+: gap) :
    (Block.mk gap a.body a.fragment).Delimited where
  gap := free
  body := a.unclosed_body
  fragment c hc := by
    have inside : c = '\n' ∨ c ∈ a.declaration ∨ c = ' ' := by simpa [fragment] using hc
    rcases inside with rfl | inside | rfl
    · rfl
    · obtain ⟨noBody, noEnd, noComment⟩ := a.ends_not_mem
      rw [Bool.eq_false_iff]
      intro ends
      simp only [Block.endsFragment, Bool.or_eq_true, beq_iff_eq] at ends
      rcases ends with (rfl | rfl) | rfl
      · exact noBody inside
      · exact noEnd inside
      · exact noComment inside
    · rfl

/-- The declaration that a printed block documents is the one that was printed. -/
theorem ofBlock? (a : Annotated) (gap : Text) :
    Documented.ofBlock? ⟨gap, a.body, a.fragment⟩ =
      some ⟨a.declaration, markParagraphs a.body⟩ := by
  have trimmed : Text.trim a.fragment = a.declaration := by
    rw [fragment, List.cons_append, ← List.singleton_append, Text.trim_blank_append (by decide),
      Text.trim_append_blank (by decide), a.trim_eq_self]
  have other : isImport a.declaration = false :=
    Bool.eq_false_iff.mpr (mt isImport_iff.mp a.not_beginsImport)
  simp [Documented.ofBlock?, trimmed, other]

/-- A printed declaration is the first one to be found, and the text is read on from where it
ends. -/
theorem documentedIn_print_append {gap : Text} (a : Annotated) (free : ¬ Block.opening <:+: gap)
    (rest : Text) :
    documentedIn (gap ++ (a.print ++ rest)) =
      ⟨a.declaration, markParagraphs a.body⟩ :: documentedIn ('{' :: '\n' :: rest) := by
  have block : Block.next? (gap ++ (a.print ++ rest)) =
      some (⟨gap, a.body, a.fragment⟩, '{' :: '\n' :: rest) := by
    refine Block.next?_eq_some_iff.mpr ⟨a.delimited free, ?_, ?_⟩
    · intro c hc
      obtain rfl : '{' = c := by simpa using hc
      rfl
    · rw [print_eq]
      simp [Block.text]
  rw [documentedIn_eq, block]
  simp only [a.ofBlock? gap, Option.toList_some, List.singleton_append]

/-- Printed declarations are found one after the other, also behind a text in which no comment
opens. -/
theorem documentedIn_append_flatMap_print (annotated : List Annotated) {gap : Text}
    (free : ¬ Block.opening <:+: gap) :
    documentedIn (gap ++ annotated.flatMap print) =
      annotated.map fun a => ⟨a.declaration, markParagraphs a.body⟩ := by
  induction annotated generalizing gap with
  | nil =>
    have tail : Block.next? gap = none := Block.next?_eq_none_iff.mpr (Or.inl free)
    rw [List.flatMap_nil, List.append_nil, documentedIn_eq, tail]
    rfl
  | cons a annotated ih =>
    -- The rest begins with the start of a body, in which no comment opens.
    have others := ih (by decide : ¬ Block.opening <:+: ['{', '\n'])
    rw [List.flatMap_cons, a.documentedIn_print_append free, List.map_cons]
    exact congrArg _ others

end Annotated

/-- Printed declarations are found again: there is one for each of them, in order, by the same
name, and its comment says the same. -/
theorem documentedIn_flatMap_print (annotated : List Annotated) :
    (documentedIn (annotated.flatMap Annotated.print)).map
        (fun d => (d.declaration, Comment.ofText d.comment)) =
      annotated.map fun a => (a.declaration, a.comment) := by
  have found := Annotated.documentedIn_append_flatMap_print annotated
    (by decide : ¬ Block.opening <:+: [])
  rw [List.nil_append] at found
  rw [found, List.map_map]
  apply List.map_congr_left
  intro a _
  rw [Function.comp_apply, a.ofText_body]

end DocMarkdown
