import DocMarkdown.Proofs.Source.Concatenation
import DocMarkdown.Proofs.Tags.Items
import Mathlib.Data.List.Forall2

/-!
# What dialects agree on

Dialects share one table of tags. Where the comment states types, it has one more group, for the
types of variables, and the values that begin with a type or a parameter are shown otherwise. All
else is the same in all dialects: which groups there are and in what order, how many items they have
and which of these are flags, and every item of a tag that states no type.

## Main definitions

* `Groups.without` — groups but for one
* `Groups.AgreeBut` — groups with the same names and the same items, but for those of some groups
* `Dialect.typedKeys` — the keys of the tags that state types

## Main results

* `Groups.without_ofList` — leaving a group out of all that items make up leaves out its items
* `Groups.agreeBut_ofList` — items that agree make up groups that agree
* `dialects_agree_on_untyped` — what the choice of a language does not affect
-/

namespace DocMarkdown

/-! ### Groups but for one -/

namespace Groups

variable {groups others : Groups} {name other : String} {item : Item}

/-- Groups but for the one of a name. -/
def without (groups : Groups) (name : String) : Groups := ⟨groups.toList.filter (·.1 ≠ name)⟩

theorem filter_addTo_self (list : List (String × List Item)) :
    (addTo name item list).filter (·.1 ≠ name) = list.filter (·.1 ≠ name) := by
  induction list with
  | nil => simp [addTo]
  | cons group rest ih =>
    obtain ⟨first, items⟩ := group
    by_cases same : name = first
    · simp [addTo, same]
    · simp only [addTo, if_neg same, List.filter_cons, ih]

theorem filter_addTo_of_ne (h : other ≠ name) (list : List (String × List Item)) :
    (addTo other item list).filter (·.1 ≠ name) =
      addTo other item (list.filter (·.1 ≠ name)) := by
  induction list with
  | nil => simp [addTo, h]
  | cons group rest ih =>
    obtain ⟨first, items⟩ := group
    by_cases left : first = name
    · -- The group that is left out is not the one of the item.
      subst left
      simp only [addTo, if_neg h, List.filter_cons, ne_eq, not_true, decide_false,
        Bool.false_eq_true, if_false] at ih ⊢
      exact ih
    · by_cases same : other = first
      · simp [addTo, same, left]
      · simp only [addTo, if_neg same, List.filter_cons, left, ne_eq, not_false_iff, decide_true,
          if_true, ih]

/-- One more item leaves the groups but for its own as they are. -/
theorem without_add_self : (groups.add name item).without name = groups.without name :=
  congrArg Groups.mk (filter_addTo_self groups.toList)

/-- One more item in a group that is not left out. -/
theorem without_add_of_ne (h : other ≠ name) :
    (groups.add other item).without name = (groups.without name).add other item :=
  congrArg Groups.mk (filter_addTo_of_ne h groups.toList)

/-- Leaving a group out of all that items make up leaves out its items. -/
theorem without_ofList (name : String) (items : List (String × Item)) :
    (ofList items).without name = ofList (items.filter (·.1 ≠ name)) := by
  have general : ∀ groups : Groups,
      (items.foldl (fun groups p => groups.add p.1 p.2) groups).without name =
        (items.filter (·.1 ≠ name)).foldl (fun groups p => groups.add p.1 p.2)
          (groups.without name) := by
    induction items with
    | nil => exact fun _ => rfl
    | cons p items ih =>
      intro groups
      rw [List.foldl_cons, ih]
      by_cases same : p.1 = name
      · rw [same, without_add_self]
        simp [same]
      · rw [without_add_of_ne same]
        simp [same]
  exact general empty

/-! ### Groups that agree -/

/-- Items agree in a group if both are flags or neither is, and if they are equal where the group
is not among those in which they may differ. -/
def ItemsAgree (differing : List String) (name : String) (item other : Item) : Prop :=
  (item = .flag ↔ other = .flag) ∧ (name ∉ differing → item = other)

/-- Groups agree but for the items of some: they have the same names in the same order, with as many
items in each, which are flags in the same places, and equal in all groups but those. -/
def AgreeBut (differing : List String) (groups others : Groups) : Prop :=
  List.Forall₂ (fun group other => group.1 = other.1 ∧
    List.Forall₂ (ItemsAgree differing group.1) group.2 other.2) groups.toList others.toList

variable {differing : List String} {item' : Item} {items items' : List (String × Item)}

/-- Groups that agree still agree with one more item each, if the items agree. -/
theorem AgreeBut.add (agree : groups.AgreeBut differing others)
    (new : ItemsAgree differing name item item') :
    (groups.add name item).AgreeBut differing (others.add name item') := by
  obtain ⟨list⟩ := groups
  obtain ⟨list'⟩ := others
  simp only [AgreeBut, Groups.add] at agree ⊢
  induction agree with
  | nil => exact .cons ⟨rfl, .cons new .nil⟩ .nil
  | @cons group other rest rest' same agree ih =>
    obtain ⟨first, own⟩ := group
    obtain ⟨_, own'⟩ := other
    obtain ⟨rfl, related⟩ := same
    dsimp only [addTo] at related ⊢
    split
    · next same =>
      subst same
      exact .cons ⟨rfl, List.rel_append related (.cons new .nil)⟩ agree
    · exact .cons ⟨rfl, related⟩ ih

/-- Items that agree make up groups that agree. -/
theorem agreeBut_ofList
    (h : List.Forall₂ (fun p q => p.1 = q.1 ∧ ItemsAgree differing p.1 p.2 q.2) items items') :
    (ofList items).AgreeBut differing (ofList items') := by
  have general : ∀ groups others : Groups, groups.AgreeBut differing others →
      (items.foldl (fun groups p => groups.add p.1 p.2) groups).AgreeBut differing
        (items'.foldl (fun groups p => groups.add p.1 p.2) others) := by
    induction h with
    | nil => exact fun _ _ agree => agree
    | @cons p q _ _ same _ ih =>
      intro groups others agree
      rw [List.foldl_cons, List.foldl_cons, ← same.1]
      exact ih _ _ (agree.add same.2)
  exact general empty empty .nil

end Groups

/-! ### One tag in two dialects -/

namespace Dialect

open Groups (ItemsAgree)

variable {style : TypeStyle} {differing : List String} {tag : Tag}

/-- The keys of the tags that state a type in the dialects where comments do. -/
def typedKeys : List String := ["param", "exception", "throws", "return", "returns", "var"]

/-- The groups of the values that are shown otherwise where comments state types. -/
theorem group_of_kind {key group : String} {kind : ValueKind}
    (row : (key, group, kind) ∈ recognised) :
    (kind = .typed → group = "Exceptions") ∧ (kind = .parameter → group = "Parameters") ∧
      (kind = .result → group = "Returns") ∧ (kind = .variableType ↔ group = "Type") := by
  have all : ∀ row ∈ recognised, (row.2.2 = .typed → row.2.1 = "Exceptions") ∧
      (row.2.2 = .parameter → row.2.1 = "Parameters") ∧
      (row.2.2 = .result → row.2.1 = "Returns") ∧
      (row.2.2 = .variableType ↔ row.2.1 = "Type") := by decide
  exact all _ row

theorem place?_of_lookup {d : Dialect} {group : String} {kind : ValueKind}
    (found : recognised.lookup tag.key = some (group, kind)) :
    d.place? tag = (d.item? kind tag.value).map (group, ·) := by
  simp only [place?, found, Option.bind_eq_bind, Option.bind_some]
  cases d.item? kind tag.value <;> rfl

/-- The items of one value in two dialects. -/
theorem exists_itemsAgree (parameters : "Parameters" ∈ differing) (returns : "Returns" ∈ differing)
    (exceptions : "Exceptions" ∈ differing ∨ style.showType = inlineCode) {key group : String}
    {kind : ValueKind} (row : (key, group, kind) ∈ recognised) (known : kind ≠ .variableType)
    (value : Text) :
    ∃ item other, plain.item? kind value = some item ∧ (typed style).item? kind value = some other ∧
      ItemsAgree differing group item other := by
  obtain ⟨ofTyped, ofParameter, ofResult, -⟩ := group_of_kind row
  have texts : ∀ t u, group ∈ differing ∨ t = u →
      ItemsAgree differing group (.text t) (.text u) := by
    intro t u reason
    refine ⟨by simp, fun free => ?_⟩
    rcases reason with listed | same
    · exact absurd listed free
    · rw [same]
  cases kind with
  | prose | flag | code => exact ⟨_, _, rfl, rfl, Iff.rfl, fun _ => rfl⟩
  | typed =>
    refine ⟨_, _, rfl, rfl, texts _ _ ?_⟩
    obtain rfl : group = "Exceptions" := ofTyped rfl
    refine exceptions.imp_right fun same => ?_
    have shown : (Dialect.typed style).showTyped = plain.showTyped := by
      funext v
      simp only [showTyped, showType, same]
    rw [shown]
  | parameter => exact ⟨_, _, rfl, rfl, texts _ _ (Or.inl (ofParameter rfl ▸ parameters))⟩
  | result => exact ⟨_, _, rfl, rfl, texts _ _ (Or.inl (ofResult rfl ▸ returns))⟩
  | variableType => exact absurd rfl known

/-- What a tag adds to the groups of two dialects. -/
theorem rel_place? (parameters : "Parameters" ∈ differing) (returns : "Returns" ∈ differing)
    (exceptions : "Exceptions" ∈ differing ∨ style.showType = inlineCode) (tag : Tag) :
    Option.Rel (fun p q => p.1 = q.1 ∧ ItemsAgree differing p.1 p.2 q.2) (plain.place? tag)
      (((typed style).place? tag).filter (·.1 ≠ "Type")) := by
  cases found : recognised.lookup tag.key with
  | none =>
    simp only [place?, found]
    exact .none
  | some row =>
    obtain ⟨group, kind⟩ := row
    have member := mem_recognised_of_lookup found
    have alone := (group_of_kind member).2.2.2
    rw [place?_of_lookup found, place?_of_lookup found]
    by_cases known : kind = .variableType
    · -- The tag is only known where comments state types, and is in the group that is left out.
      have left : group = "Type" := alone.mp known
      subst known left
      exact .none
    · obtain ⟨item, other, shown, shown', agree⟩ :=
        exists_itemsAgree parameters returns exceptions member known tag.value
      have kept : group ≠ "Type" := fun same => known (alone.mpr same)
      rw [shown, shown']
      simp only [Option.map_some, Option.filter_some, kept, ne_eq, not_false_iff, decide_true,
        if_true]
      exact .some ⟨rfl, agree⟩

/-- The groups of a list of tags in two dialects. -/
theorem agreeBut_groups (parameters : "Parameters" ∈ differing) (returns : "Returns" ∈ differing)
    (exceptions : "Exceptions" ∈ differing ∨ style.showType = inlineCode) (tags : List Tag) :
    (plain.groups tags).AgreeBut differing (((typed style).groups tags).without "Type") := by
  rw [groups, groups, Groups.without_ofList, List.filter_filterMap]
  exact Groups.agreeBut_ofList (List.rel_filterMap (R := Eq)
    (fun tag _ same => same ▸ rel_place? parameters returns exceptions tag)
    (List.forall₂_refl tags))

/-! ### Tags that state no type -/

/-- All dialects show a tag that states no type alike. -/
theorem place?_of_untyped (untyped : tag.key ∉ typedKeys) (d : Dialect) :
    d.place? tag = plain.place? tag := by
  cases found : recognised.lookup tag.key with
  | none => simp only [place?, found, Option.bind_eq_bind, Option.bind_none]
  | some row =>
    obtain ⟨group, kind⟩ := row
    have all : ∀ row ∈ recognised, row.1 ∈ typedKeys ∨ row.2.2 ∈ [.prose, .flag, .code] := by
      decide
    have uniform : kind ∈ [.prose, .flag, .code] :=
      (all _ (mem_recognised_of_lookup found)).resolve_left untyped
    simp only [List.mem_cons, List.not_mem_nil, or_false] at uniform
    rw [place?_of_lookup found, place?_of_lookup found]
    rcases uniform with rfl | rfl | rfl <;> rfl

theorem groups_of_untyped {tags : List Tag} (untyped : ∀ tag ∈ tags, tag.key ∉ typedKeys)
    (d : Dialect) : d.groups tags = plain.groups tags := by
  have same : tags.filterMap d.place? = tags.filterMap plain.place? :=
    List.filterMap_congr fun tag member => place?_of_untyped (untyped tag member) d
  rw [groups, groups, same]

end Dialect

namespace Markdown

theorem subsection_of_untyped {documented : Documented}
    (untyped : ∀ tag ∈ (Comment.ofText documented.comment).tags, tag.key ∉ Dialect.typedKeys)
    (d : Dialect) (level : Nat) :
    subsection d level documented = subsection .plain level documented := by
  simp only [subsection, Dialect.groups_of_untyped untyped d]

/-- Comments whose tags state no types make up the same document in all dialects. -/
theorem document_of_untyped {documented : List Documented}
    (untyped : ∀ one ∈ documented, ∀ tag ∈ (Comment.ofText one.comment).tags,
      tag.key ∉ Dialect.typedKeys) (d : Dialect) (level : Nat) :
    document d level documented = document .plain level documented := by
  have same : documented.flatMap (subsection d level) =
      documented.flatMap (subsection .plain level) :=
    List.flatMap_congr fun one member => subsection_of_untyped (untyped one member) d level
  rw [document, document, same]

end Markdown

/-- The choice of a language affects only the tags that state types. Whatever the style of types,
the groups but for the types of variables are those of the dialect without types: of the same names,
in the same order, with as many items each and flags in the same places. The items are equal but for
exceptions, parameters and returned values, and exceptions too are equal where types stand as they
are. So where no comment has a tag that states a type, the documents in all built-in languages are
the same. -/
theorem dialects_agree_on_untyped (tags : List Tag) (style : TypeStyle) (code : String)
    (level : Nat) :
    (Dialect.plain.groups tags).AgreeBut ["Exceptions", "Parameters", "Returns"]
        (((Dialect.typed style).groups tags).without "Type") ∧
      (Dialect.plain.groups tags).AgreeBut ["Parameters", "Returns"]
        (((Dialect.typed .dollar).groups tags).without "Type") ∧
      ((∀ documented ∈ documentedIn code.toList, ∀ tag ∈ (Comment.ofText documented.comment).tags,
          tag.key ∉ Dialect.typedKeys) →
        ∃ document, convert "javadoc" code level = .ok document ∧
          convert "phpdoc" code level = .ok document ∧
          convert "jsdoc" code level = .ok document) := by
  refine ⟨Dialect.agreeBut_groups (by decide) (by decide) (Or.inl (by decide)) tags,
    Dialect.agreeBut_groups (by decide) (by decide) (Or.inr rfl) tags, fun untyped => ?_⟩
  have converted : ∀ {language : String} {d : Dialect},
      Languages.builtIn.find language = .ok d → convert language code level =
        .ok (String.ofList (Markdown.document .plain level (documentedIn code.toList))) := by
    intro language d registered
    rw [convert, Languages.convert_of_documentedIn registered rfl level,
      Markdown.document_of_untyped untyped d level]
  exact ⟨_, converted rfl, converted rfl, converted rfl⟩

/-- A flag, and two keys of one group with another tag between them. -/
theorem dialects_agree_on_untyped_mixed :
    (∀ documented ∈ documentedIn "/**\n * @name f\n * @private\n * @alias g\n */ int x;".toList,
        ∀ tag ∈ (Comment.ofText documented.comment).tags, tag.key ∉ Dialect.typedKeys) ∧
      ∃ document,
        convert "javadoc" "/**\n * @name f\n * @private\n * @alias g\n */ int x;" 1 =
            .ok document ∧
          convert "phpdoc" "/**\n * @name f\n * @private\n * @alias g\n */ int x;" 1 =
            .ok document ∧
          convert "jsdoc" "/**\n * @name f\n * @private\n * @alias g\n */ int x;" 1 =
            .ok document := by
  have untyped : ∀ documented ∈
        documentedIn "/**\n * @name f\n * @private\n * @alias g\n */ int x;".toList,
      ∀ tag ∈ (Comment.ofText documented.comment).tags, tag.key ∉ Dialect.typedKeys := by
    have unclosed : ¬ Block.closing <:+: "\n * @name f\n * @private\n * @alias g\n ".toList := by
      decide
    have rest : documentedIn (" int x;".toList.dropWhile (!Block.endsFragment ·)) = [] := by cbv
    have found : documentedIn "/**\n * @name f\n * @private\n * @alias g\n */ int x;".toList =
        [⟨"int x".toList, "\n * @name f\n * @private\n * @alias g\n ".toList⟩] := by
      refine (documentedIn_comment_append unclosed " int x;".toList).trans ?_
      rw [rest]
      rfl
    rw [found]
    decide
  exact ⟨untyped, (dialects_agree_on_untyped [] .dollar _ 1).2.2 untyped⟩

end DocMarkdown
