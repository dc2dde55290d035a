import DocMarkdown.Markdown.Document
import DocMarkdown.Proofs.Comment.Values

/-!
# What is shown of tags

The built-in dialects show words on one line, and of what follows the words of a value they show all
of it as it stands. So the items that they make of paragraphed values are paragraphed, and the names
of their groups are on one line.

## Main definitions

* `Groups.All` — something holds of every item and the name of its group
* `Dialect.builtIn` — the dialects of the built-in languages
* `Dialect.IsInline` — a dialect that shows words on one line

## Main results

* `Groups.all_ofList` — what holds of the items put into groups holds of the groups
* `isInline_of_mem_builtIn` — the built-in dialects show words on one line
* `Dialect.IsInline.item?` — items of paragraphed values are paragraphed
* `Dialect.IsInline.all_groups` — so are all items in the groups of a comment's tags
-/

namespace DocMarkdown

open Markdown (itemText)

/-! ### Items in groups -/

namespace Groups

variable {holds : String → Item → Prop} {groups : Groups} {name : String} {item : Item}

/-- Something holds of every item and the name of its group, and no group is without items. -/
def All (holds : String → Item → Prop) (groups : Groups) : Prop :=
  ∀ group ∈ groups.toList, group.2 ≠ [] ∧ ∀ item ∈ group.2, holds group.1 item

theorem All.add (h : groups.All holds) (new : holds name item) :
    (groups.add name item).All holds := by
  obtain ⟨list⟩ := groups
  rw [Groups.add]
  induction list with
  | nil =>
    intro group member
    obtain rfl : group = (name, [item]) := List.mem_singleton.mp member
    exact ⟨List.cons_ne_nil _ _, by simpa using new⟩
  | cons first rest ih =>
    obtain ⟨other, items⟩ := first
    have head := h _ List.mem_cons_self
    have others : (Groups.mk rest).All holds := fun group member =>
      h group (List.mem_cons_of_mem _ member)
    dsimp only [addTo]
    split
    · next same =>
      -- The item comes last in the first group, which has its name.
      subst same
      intro group member
      rcases List.mem_cons.mp member with rfl | member
      · refine ⟨by simp, fun i hi => ?_⟩
        rcases List.mem_append.mp hi with hi | hi
        · exact head.2 i hi
        · exact List.mem_singleton.mp hi ▸ new
      · exact others group member
    · intro group member
      rcases List.mem_cons.mp member with rfl | member
      · exact head
      · exact ih others group member

/-- What holds of the items that are put into groups holds of the groups. -/
theorem all_ofList {items : List (String × Item)} (h : ∀ p ∈ items, holds p.1 p.2) :
    (ofList items).All holds := by
  have general : ∀ groups : Groups, groups.All holds →
      (items.foldl (fun groups p => groups.add p.1 p.2) groups).All holds := by
    induction items with
    | nil => exact fun _ all => all
    | cons p items ih =>
      intro groups all
      exact ih (fun q hq => h q (List.mem_cons_of_mem p hq)) _ (all.add (h p List.mem_cons_self))
  exact general empty fun _ absent => nomatch absent

end Groups

/-! ### Words on one line -/

variable {t value : Text}

theorem feed_not_mem_inlineCode (h : '\n' ∉ t) : '\n' ∉ inlineCode t := by
  simp [inlineCode, codeMark, h]

theorem feed_not_mem_dash : '\n' ∉ dash := by decide

/-- A style that shows words on one line. -/
structure TypeStyle.IsInline (style : TypeStyle) : Prop where
  showType {type : Text} : '\n' ∉ type → '\n' ∉ style.showType type
  showParameter {type name : Text} :
    '\n' ∉ type → '\n' ∉ name → '\n' ∉ style.showParameter type name

/-- A dialect that shows words on one line. -/
def Dialect.IsInline : Dialect → Prop
  | plain => True
  | typed style => style.IsInline

/-- The dialects of the built-in languages. -/
def Dialect.builtIn : List Dialect := [plain, typed .dollar, typed .braces]

theorem TypeStyle.feed_not_mem_codeDash {a b : Text} (ha : '\n' ∉ a) (hb : '\n' ∉ b) :
    '\n' ∉ inlineCode a ++ dash ++ inlineCode b := by
  simp [feed_not_mem_inlineCode ha, feed_not_mem_inlineCode hb, feed_not_mem_dash]

theorem TypeStyle.isInline_dollar : dollar.IsInline where
  showType := feed_not_mem_inlineCode
  showParameter ht hn := by
    dsimp only [dollar]
    split
    · exact feed_not_mem_codeDash hn ht
    · exact feed_not_mem_inlineCode ht

theorem TypeStyle.subset_of_inBraces? {type inner : Text} (h : inBraces? type = some inner) :
    inner ⊆ type := by
  unfold inBraces? at h
  split at h
  · split at h
    · obtain rfl := Option.some.inj h
      exact fun c hc => List.mem_cons_of_mem _ (List.dropLast_subset _ hc)
    · cases h
  · cases h

theorem TypeStyle.isInline_braces : braces.IsInline where
  showType {type} ht := by
    apply feed_not_mem_inlineCode
    cases found : inBraces? type with
    | none => exact ht
    | some inner => exact fun inside => ht (subset_of_inBraces? found inside)
  showParameter {type name} ht hn := by
    dsimp only [braces]
    split
    · next inner found =>
      split
      · exact feed_not_mem_codeDash hn fun inside => ht (subset_of_inBraces? found inside)
      · exact feed_not_mem_inlineCode ht
    · exact feed_not_mem_inlineCode ht

namespace Dialect

variable {d : Dialect} {kind : ValueKind} {item : Item}

theorem isInline_of_mem_builtIn (h : d ∈ builtIn) : d.IsInline := by
  simp only [builtIn, List.mem_cons, List.not_mem_nil, or_false] at h
  rcases h with rfl | rfl | rfl
  · trivial
  · exact TypeStyle.isInline_dollar
  · exact TypeStyle.isInline_braces

/-! ### Items of paragraphed values -/

theorem isParagraphed_unlessBlank {showValue : Text → Text} (h : IsParagraphed (showValue value)) :
    IsParagraphed (itemText (unlessBlank showValue value)) := by
  rw [unlessBlank, itemText]
  split
  · exact .nil
  · exact h

theorem isParagraphed_inlineCode (h : IsParagraphed value) : IsParagraphed (inlineCode value) :=
  have mark : IsParagraphed codeMark := .line (by decide)
  (mark.append h).append mark

namespace IsInline

theorem showType (inline : d.IsInline) (h : '\n' ∉ t) : '\n' ∉ d.showType t := by
  cases d with
  | plain => exact feed_not_mem_inlineCode h
  | typed style => exact TypeStyle.IsInline.showType inline h

theorem showTyped (inline : d.IsInline) (h : IsParagraphed value) :
    IsParagraphed (d.showTyped value) := by
  have type := inline.showType (feed_not_mem_splitWord value)
  exact ((IsParagraphed.line type).append (.line feed_not_mem_dash)).append h.splitWord

theorem showParameter (inline : d.IsInline) (h : IsParagraphed value) :
    IsParagraphed (d.showParameter value) := by
  cases d with
  | plain => exact showTyped inline h
  | typed style =>
    have words := TypeStyle.IsInline.showParameter inline (feed_not_mem_splitWord value)
      (feed_not_mem_splitWord (Text.splitWord value).2)
    exact ((IsParagraphed.line words).append (.line feed_not_mem_dash)).append h.splitWord.splitWord

/-- Items of paragraphed values are paragraphed. -/
theorem item? (inline : d.IsInline) (h : IsParagraphed value)
    (shown : d.item? kind value = some item) : IsParagraphed (itemText item) := by
  have typed := isParagraphed_unlessBlank (inline.showTyped h)
  cases kind with
  | prose =>
    obtain rfl := Option.some.inj shown
    exact h
  | flag =>
    obtain rfl := Option.some.inj shown
    exact .nil
  | code =>
    obtain rfl := Option.some.inj shown
    exact isParagraphed_unlessBlank (isParagraphed_inlineCode h)
  | typed =>
    obtain rfl := Option.some.inj shown
    exact typed
  | parameter =>
    obtain rfl := Option.some.inj shown
    exact isParagraphed_unlessBlank (inline.showParameter h)
  | result =>
    cases d with
    | plain =>
      obtain rfl := Option.some.inj shown
      exact h
    | typed style =>
      obtain rfl := Option.some.inj shown
      exact typed
  | variableType =>
    cases d with
    | plain => cases shown
    | typed style =>
      obtain rfl := Option.some.inj shown
      exact typed

end IsInline

theorem feed_not_mem_recognised : ∀ row ∈ recognised, '\n' ∉ row.2.1.toList := by decide

theorem mem_recognised_of_lookup {key name : String}
    (found : recognised.lookup key = some (name, kind)) : (key, name, kind) ∈ recognised := by
  obtain ⟨front, back, rows, -⟩ := List.lookup_eq_some_iff.mp found
  exact rows ▸ List.mem_append_right _ List.mem_cons_self

/-- The group of a tag is one of the table, and its item is that of the tag's value. -/
theorem exists_of_place? {tag : Tag} {name : String} (h : d.place? tag = some (name, item)) :
    ∃ kind, (tag.key, name, kind) ∈ recognised ∧ d.item? kind tag.value = some item := by
  simp only [place?, Option.bind_eq_bind, Option.bind_eq_some_iff, Option.some.injEq,
    Prod.mk.injEq] at h
  obtain ⟨⟨group, kind⟩, found, entry, shown, rfl, rfl⟩ := h
  exact ⟨kind, mem_recognised_of_lookup found, shown⟩

/-- In the groups of paragraphed tags all names are on one line and all items are paragraphed. -/
theorem IsInline.all_groups (inline : d.IsInline) {tags : List Tag}
    (h : ∀ tag ∈ tags, IsParagraphed tag.value) :
    (d.groups tags).All fun name item => '\n' ∉ name.toList ∧ IsParagraphed (itemText item) := by
  refine Groups.all_ofList fun p hp => ?_
  obtain ⟨tag, member, placed⟩ := List.mem_filterMap.mp hp
  obtain ⟨kind, row, shown⟩ := exists_of_place? placed
  exact ⟨feed_not_mem_recognised _ row, inline.item? (h tag member) shown⟩

end Dialect

end DocMarkdown
