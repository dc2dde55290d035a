import DocMarkdown.Proofs.Tags.Items

/-!
# The lines of a subsection

What comments say cannot forge the structure of a document. A subsection has one heading, the label
of which is on one line. In the list of its groups a line either starts a group or belongs to the
item above it, whatever the tags say: line feeds in values stand in breaks between paragraphs, and
what follows a break is indented.

## Main definitions

* `Markdown.IsListing` — a block of lines that lists groups

## Main results

* `groupLines_cases` — the three ways to write a group
* `exists_lines_groupLines` — one line of a group starts it, and all others belong to its items
* `isListing_groupList` — a list of groups is a listing of them
* `subsection_shape` — the shape of a subsection
-/

namespace DocMarkdown.Markdown

variable {name : String} {item : Item} {items : List Item} {groups : Groups} {front t : Text}

/-- What a line that starts a group begins with. -/
def groupStart (name : String) : Text := " * **".toList ++ name.toList

/-- A group of flags is its name. -/
theorem groupLines_of_flags (h : items.all (· = .flag) = true) :
    groupLines name items = groupStart name ++ "**".toList :=
  if_pos h

/-- A group with one item has it on its line. -/
theorem groupLines_single (h : item ≠ .flag) :
    groupLines name [item] = groupStart name ++ ":** ".toList ++ itemText item := by
  have shown : groupLines name [item] = groupStart name ++ ":**".toList ++ ' ' :: itemText item :=
    if_neg (by simpa using h)
  rw [shown, List.append_assoc, List.append_assoc]
  rfl

/-- A group with several items has each on a line below. -/
theorem groupLines_of_several (h : ¬ items.all (· = .flag) = true)
    (several : ∀ item, items ≠ [item]) :
    groupLines name items = groupStart name ++ ":**".toList ++
      items.flatMap fun item => '\n' :: ("   * ".toList ++ itemText item) := by
  rw [groupLines, if_neg h]
  · rfl
  · exact several

/-- The three ways to write a group. -/
theorem groupLines_cases (name : String) (items : List Item) :
    groupLines name items = groupStart name ++ "**".toList ∨
      (∃ item ∈ items, groupLines name items = groupStart name ++ ":** ".toList ++ itemText item) ∨
      groupLines name items = groupStart name ++ ":**".toList ++
        items.flatMap fun item => '\n' :: ("   * ".toList ++ itemText item) := by
  by_cases flags : items.all (· = .flag) = true
  · exact Or.inl (groupLines_of_flags flags)
  · by_cases single : ∃ item, items = [item]
    · obtain ⟨item, rfl⟩ := single
      have told : item ≠ .flag := by simpa using flags
      exact Or.inr (Or.inl ⟨item, List.mem_cons_self, groupLines_single told⟩)
    · exact Or.inr (Or.inr (groupLines_of_several flags (not_exists.mp single)))

/-- A block of lines that lists groups: its lines that are neither empty nor indented by three
spaces are one for each group, in order, and begin with the name of the group. -/
def IsListing (groups : Groups) (block : Text) : Prop :=
  List.Forall₂ (fun group l => groupStart group.1 <+: l) groups.toList
    ((Text.lines block).filter fun l => ¬ IsNested l)

/-! ### The lines of a group -/

theorem not_isNested_of_groupStart {l : Text} (h : groupStart name <+: l) : ¬ IsNested l := by
  obtain ⟨u, rfl⟩ := h
  rintro (empty | indented)
  · cases empty
  · -- The second character is the bullet.
    have second := (List.cons_prefix_cons.mp (List.cons_prefix_cons.mp indented).2).1
    exact absurd second (by decide)

/-- Behind a text on one line, the further lines of a paragraphed text belong to its item. -/
theorem exists_lines_append (feedless : '\n' ∉ front) (h : IsParagraphed t) :
    ∃ first others, Text.lines (front ++ t) = (front ++ first) :: others ∧
      ∀ l ∈ others, IsNested l := by
  obtain ⟨first, others, same, nested⟩ := h.exists_lines
  exact ⟨first, others, Text.lines_append_of_not_mem feedless same, nested⟩

/-- All lines of an item in a list of its own belong to it. -/
theorem isNested_of_mem_lines_item (h : IsParagraphed (itemText item)) :
    ∀ l ∈ Text.lines ("   * ".toList ++ itemText item), IsNested l := by
  have feedless : '\n' ∉ "   * ".toList := by decide
  obtain ⟨first, others, same, nested⟩ := exists_lines_append feedless h
  rw [same]
  intro l hl
  rcases List.mem_cons.mp hl with rfl | hl
  · exact Or.inr (List.prefix_append "   ".toList ("* ".toList ++ first))
  · exact nested l hl

/-- One line of a group starts it, and all others belong to its items. -/
theorem exists_lines_groupLines (feedless : '\n' ∉ name.toList)
    (paragraphed : ∀ item ∈ items, IsParagraphed (itemText item)) :
    ∃ first others, Text.lines (groupLines name items) = first :: others ∧
      groupStart name <+: first ∧ ∀ l ∈ others, IsNested l := by
  have start : '\n' ∉ groupStart name := by
    intro inside
    rcases List.mem_append.mp inside with inside | inside
    · exact absurd inside (by decide)
    · exact feedless inside
  have free : ∀ mark : Text, '\n' ∉ mark → '\n' ∉ groupStart name ++ mark := fun mark absent =>
    mt List.mem_append.mp (not_or.mpr ⟨start, absent⟩)
  rcases groupLines_cases name items with flags | ⟨item, hi, single⟩ | several
  · rw [flags]
    exact ⟨_, [], Text.lines_of_not_mem (free _ (by decide)), List.prefix_append _ _,
      fun _ absent => nomatch absent⟩
  · obtain ⟨first, others, same, nested⟩ :=
      exists_lines_append (free ":** ".toList (by decide)) (paragraphed item hi)
    rw [single, same]
    refine ⟨_, others, rfl, ?_, nested⟩
    rw [List.append_assoc]
    exact List.prefix_append _ _
  · rw [several, Text.lines_append_flatMap, Text.lines_of_not_mem (free _ (by decide))]
    refine ⟨_, _, rfl, List.prefix_append _ _, fun l hl => ?_⟩
    obtain ⟨item, hi, hl⟩ := List.mem_flatMap.mp hl
    exact isNested_of_mem_lines_item (paragraphed item hi) l hl

/-! ### The lines of a list of groups -/

/-- Lists of which one element each passes a filter make up a list from which these pass. -/
theorem forall₂_filter_flatMap {α β : Type*} {R : α → β → Prop} {p : β → Bool} {f : α → List β}
    {xs : List α} (h : ∀ x ∈ xs, ∃ y, (f x).filter p = [y] ∧ R x y) :
    List.Forall₂ R xs ((xs.flatMap f).filter p) := by
  induction xs with
  | nil => exact .nil
  | cons x xs ih =>
    obtain ⟨y, only, related⟩ := h x List.mem_cons_self
    rw [List.flatMap_cons, List.filter_append, only]
    exact .cons related (ih fun z hz => h z (List.mem_cons_of_mem x hz))

/-- A list of groups is a listing of them. -/
theorem isListing_groupList
    (h : groups.All fun name item => '\n' ∉ name.toList ∧ IsParagraphed (itemText item)) :
    IsListing groups (groupList groups) := by
  have lines : Text.lines (groupList groups) =
      [] :: groups.toList.flatMap fun group => Text.lines (groupLines group.1 group.2) :=
    Text.lines_append_flatMap (fun group : String × List Item => groupLines group.1 group.2)
      groups.toList []
  have empty : ¬ decide (¬ IsNested []) = true := by decide
  rw [IsListing, lines, List.filter_cons_of_neg (p := fun l => ¬ IsNested l) empty]
  refine forall₂_filter_flatMap fun group member => ?_
  obtain ⟨inhabited, items⟩ := h group member
  obtain ⟨item, present⟩ := List.exists_mem_of_ne_nil _ inhabited
  obtain ⟨first, others, same, starts, nested⟩ :=
    exists_lines_groupLines (items item present).1 fun i hi => (items i hi).2
  have kept : decide (¬ IsNested first) = true :=
    decide_eq_true (not_isNested_of_groupStart starts)
  have dropped : others.filter (fun l => ¬ IsNested l) = [] := by
    simpa [List.filter_eq_nil_iff] using nested
  refine ⟨first, ?_, starts⟩
  rw [same, List.filter_cons_of_pos (p := fun l => ¬ IsNested l) kept, dropped]

/-! ### Subsections -/

/-- What comments say cannot forge the structure of a document. A subsection is empty, or it is a
heading with a label on one line, the description if there is one, and a listing of the groups if
there are any. -/
theorem subsection_shape {d : Dialect} (known : d ∈ Dialect.builtIn) (level : Nat)
    (documented : Documented) :
    let comment := Comment.ofText documented.comment
    let groups := d.groups comment.tags
    subsection d level documented = [] ∨
      (∀ c ∈ label documented.declaration, c ≠ '\n' ∧ c ≠ '\r' ∧ c ≠ '\t') ∧
        subsection d level documented =
          "\n\n".toList ++ (List.replicate (level + 1) '#' ++ " `".toList ++
            label documented.declaration ++ "`".toList) ++
            (if comment.description = [] then [] else "\n\n".toList ++ comment.description) ++
            (if groups.toList = [] then [] else "\n".toList ++ groupList groups) ∧
        IsListing groups (groupList groups) := by
  intro comment groups
  by_cases unnamed : label documented.declaration = []
  · exact Or.inl (subsection_of_label_eq_nil unnamed)
  · refine Or.inr ⟨fun c hc => ?_, ?_, ?_⟩
    · have unbroken := Text.isBreak_of_mem_oneLine hc
      refine ⟨?_, ?_, ?_⟩ <;> rintro rfl <;> exact absurd unbroken (by decide)
    · have title : heading (level + 1) (inlineCode (label documented.declaration)) =
          List.replicate (level + 1) '#' ++ " `".toList ++ label documented.declaration ++
            "`".toList := by
        simp [heading, inlineCode, codeMark]
      rw [subsection_of_label_ne_nil unnamed, title, Groups.isEmpty]
      simp only [List.isEmpty_iff]
      rfl
    · exact isListing_groupList
        ((Dialect.isInline_of_mem_builtIn known).all_groups fun _ => isParagraphed_of_mem_tags)

/-- A value with a heading, and one with a group, in its paragraphs. -/
theorem subsection_shape_forged :
    Dialect.typed .dollar ∈ Dialect.builtIn ∧
      subsection (.typed .dollar) 1 ⟨"f".toList,
        "* @param int $x\n * # g\n * @see a\n *  * **Since:** b\n * @private".toList⟩ ≠ [] ∧
      IsListing
        ((Dialect.typed .dollar).groups (Comment.ofText
          "* @param int $x\n * # g\n * @see a\n *  * **Since:** b\n * @private".toList).tags)
        (groupList ((Dialect.typed .dollar).groups (Comment.ofText
          "* @param int $x\n * # g\n * @see a\n *  * **Since:** b\n * @private".toList).tags)) := by
  have known : Dialect.typed .dollar ∈ Dialect.builtIn :=
    List.mem_cons_of_mem _ List.mem_cons_self
  have named : label "f".toList ≠ [] := by decide
  have shown : subsection (.typed .dollar) 1 ⟨"f".toList,
      "* @param int $x\n * # g\n * @see a\n *  * **Since:** b\n * @private".toList⟩ ≠ [] := by
    rw [subsection_of_label_ne_nil named]
    exact List.cons_ne_nil _ _
  rcases subsection_shape known 1 ⟨"f".toList,
    "* @param int $x\n * # g\n * @see a\n *  * **Since:** b\n * @private".toList⟩ with none | shape
  · exact absurd none shown
  · exact ⟨known, shown, shape.2.2⟩

end DocMarkdown.Markdown
