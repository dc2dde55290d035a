import DocMarkdown.Proofs.Comment.NormalForm
import DocMarkdown.Proofs.Markdown.Listing

/-!
# The vertical spacing of documents

The parts of a document are set off by one empty line each, whatever the comments say. Each part is
compact, and those with an empty line before them do not begin with a line feed. So a document never
has two empty lines in a row, and it ends with a single line feed.

## Main results

* `IsParagraphed.isCompact` — what tags say is compact
* `isCompact_groupLines`, `isCompact_subsection` — so are groups and subsections
* `document_spacing` — the vertical spacing of a document
-/

namespace DocMarkdown

open Text (IsCompact)

theorem IsParagraphed.isCompact {t : Text} (h : IsParagraphed t) : IsCompact t := by
  induction h with
  | line feedless => exact .of_not_mem feedless
  | @paragraph a t feedless _ ih =>
    have split : a ++ Tag.paragraphBreak ++ t = (a ++ ['\n', '\n']) ++ ' ' :: ' ' :: ' ' :: t := by
      rw [List.append_assoc, List.append_assoc]
      rfl
    have sparse : ¬ Text.emptyLines <:+: a ++ ['\n', '\n'] := by
      rw [Text.emptyLines_infix_append_iff feedless]
      decide
    rw [split]
    exact .append_cons sparse (by decide)
      (.cons (by decide) (.cons (by decide) (.cons (by decide) ih)))

namespace Markdown

variable {d : Dialect} {name : String} {items : List Item} {groups : Groups}

/-! ### Groups -/

/-- A group is compact, and begins with the blank before its bullet. -/
theorem isCompact_groupLines (feedless : '\n' ∉ name.toList)
    (paragraphed : ∀ item ∈ items, IsParagraphed (itemText item)) :
    ∃ rest, groupLines name items = ' ' :: rest ∧ IsCompact (groupLines name items) := by
  have start : IsCompact (groupStart name) :=
    (IsCompact.of_not_mem (by decide)).append (.of_not_mem feedless)
  have mark : ∀ t : Text, '\n' ∉ t → IsCompact (groupStart name ++ t) := fun t free =>
    start.append (.of_not_mem free)
  have begins : ∃ rest, groupLines name items = ' ' :: rest := by
    unfold groupLines
    split <;> exact ⟨_, rfl⟩
  obtain ⟨rest, same⟩ := begins
  refine ⟨rest, same, ?_⟩
  rcases groupLines_cases name items with flags | ⟨item, member, single⟩ | several
  · rw [flags]
    exact mark _ (by decide)
  · rw [single]
    exact (mark _ (by decide)).append (paragraphed item member).isCompact
  · rw [several]
    refine (mark _ (by decide)).append (.flatMap fun item member => ?_)
    have bullet : IsCompact ("   * ".toList ++ itemText item) :=
      (IsCompact.of_not_mem (by decide)).append (paragraphed item member).isCompact
    exact .append_cons (a := ['\n']) (by decide) (by decide) bullet

/-- A list of groups with an empty line before it is compact. -/
theorem isCompact_groupList (nonempty : groups.toList ≠ [])
    (h : groups.All fun name item => '\n' ∉ name.toList ∧ IsParagraphed (itemText item)) :
    IsCompact ('\n' :: groupList groups) := by
  have lines : ∀ group ∈ groups.toList, ∃ rest,
      groupLines group.1 group.2 = ' ' :: rest ∧ IsCompact (groupLines group.1 group.2) := by
    intro group member
    obtain ⟨inhabited, items⟩ := h group member
    obtain ⟨item, present⟩ := List.exists_mem_of_ne_nil _ inhabited
    exact isCompact_groupLines (items item present).1 fun i hi => (items i hi).2
  have behind : ∀ front : Text, ¬ Text.emptyLines <:+: front → ∀ group ∈ groups.toList,
      IsCompact (front ++ groupLines group.1 group.2) := by
    intro front sparse group member
    obtain ⟨rest, same, compact⟩ := lines group member
    rw [same] at compact ⊢
    exact .append_cons sparse (by decide) compact
  have others : ∀ group ∈ groups.toList, IsCompact (['\n'] ++ groupLines group.1 group.2) :=
    behind ['\n'] (by decide)
  have empty : ∀ group ∈ groups.toList, IsCompact (['\n', '\n'] ++ groupLines group.1 group.2) :=
    behind ['\n', '\n'] (by decide)
  rw [groupList]
  obtain ⟨first, rest, same⟩ := List.exists_cons_of_ne_nil nonempty
  rw [same] at others empty ⊢
  rw [List.flatMap_cons, ← List.cons_append]
  exact (empty first List.mem_cons_self).append
    (.flatMap fun group member => others group (List.mem_cons_of_mem first member))

/-! ### Documents -/

theorem isCompact_heading (level : Nat) {title : Text} (h : '\n' ∉ title) :
    IsCompact (heading level title) := by
  apply IsCompact.of_not_mem
  rw [heading, List.mem_append, List.mem_cons, not_or, not_or]
  refine ⟨fun inside => ?_, by decide, h⟩
  exact absurd (List.eq_of_mem_replicate inside) (by decide)

/-- A subsection is compact. -/
theorem isCompact_subsection (inline : d.IsInline) (level : Nat) (documented : Documented) :
    IsCompact (subsection d level documented) := by
  by_cases unnamed : label documented.declaration = []
  · rw [subsection_of_label_eq_nil unnamed]
    exact .nil
  · have title : IsCompact ("\n\n".toList ++
        heading (level + 1) (inlineCode (label documented.declaration))) :=
      .append_cons (by decide) (by decide)
        (isCompact_heading (level + 1) (feed_not_mem_inlineCode (feed_not_mem_oneLine _)))
    rw [subsection_of_label_ne_nil unnamed]
    refine (title.append ?_).append ?_
    · split
      · exact .nil
      · next said =>
        obtain ⟨c, rest, same⟩ := List.exists_cons_of_ne_nil (mt List.isEmpty_iff.mpr said)
        obtain ⟨compact, begins⟩ := isCompact_description_ofText documented.comment
        rw [same] at compact begins ⊢
        have hc : c ≠ '\n' := by simpa using begins
        exact .append_cons (by decide) hc compact
    · split
      · exact .nil
      · next tagged =>
        exact isCompact_groupList (mt List.isEmpty_iff.mpr tagged)
          (inline.all_groups fun _ => isParagraphed_of_mem_tags)

/-- A document ends with one line feed, and nowhere has two empty lines in a row. -/
theorem document_spacing (known : d ∈ Dialect.builtIn) (level : Nat)
    (documented : List Documented) :
    (∃ front c, document d level documented = front ++ [c, '\n'] ∧ c ≠ '\n') ∧
      ¬ ['\n', '\n', '\n'] <:+: document d level documented := by
  have compact : IsCompact (title level ++ documented.flatMap (subsection d level)) :=
    (isCompact_heading level (by decide)).append (.flatMap fun one _ =>
      isCompact_subsection (Dialect.isInline_of_mem_builtIn known) level one)
  have nonempty : title level ++ documented.flatMap (subsection d level) ≠ [] := by
    simp [title, heading]
  rcases List.eq_nil_or_concat (title level ++ documented.flatMap (subsection d level)) with
    empty | ⟨front, c, whole⟩
  · exact absurd empty nonempty
  · have shown : document d level documented = front ++ c :: ['\n'] := by
      rw [document, whole, List.concat_eq_append, List.append_assoc, List.singleton_append]
    rw [whole, List.concat_eq_append] at compact
    have hc : c ≠ '\n' := by simpa using compact.getLast?_ne_feed
    refine ⟨⟨front, c, shown, hc⟩, ?_⟩
    rw [shown]
    intro two
    rcases (Text.emptyLines_infix_append_cons_iff hc).mp two with inside | inside
    · exact compact.sparse (inside.trans (List.prefix_append front [c]).isInfix)
    · exact absurd inside (by decide)

/-- Paragraph marks in a row, and a tag that says nothing, in two subsections. -/
theorem document_spacing_marks :
    Dialect.typed .braces ∈ Dialect.builtIn ∧
      (∃ front c, document (.typed .braces) 0 [⟨"f".toList, "* A. <p> <P></p>\n * @see".toList⟩,
          ⟨"g".toList, "* <p>\n * B.".toList⟩] = front ++ [c, '\n'] ∧ c ≠ '\n') ∧
        ¬ ['\n', '\n', '\n'] <:+: document (.typed .braces) 0
          [⟨"f".toList, "* A. <p> <P></p>\n * @see".toList⟩,
            ⟨"g".toList, "* <p>\n * B.".toList⟩] := by
  have known : Dialect.typed .braces ∈ Dialect.builtIn :=
    List.mem_cons_of_mem _ (List.mem_cons_of_mem _ List.mem_cons_self)
  exact ⟨known, document_spacing known 0 _⟩

end Markdown

end DocMarkdown
