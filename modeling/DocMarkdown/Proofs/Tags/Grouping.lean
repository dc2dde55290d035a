import DocMarkdown.Proofs.Markdown.Listing
import DocMarkdown.Proofs.Tags.Agreement
import Mathlib.Algebra.Ring.Nat
import Mathlib.Data.Finset.Card

/-!
# Grouping is a stable partition

Items that are put into groups one after the other are neither lost nor repeated. Each group holds
the items that were put into it, in that order, and the groups stand in the order in which they were
first used. What a dialect shows of a list of tags is such a partition, with one item for each tag
that it recognises; and as all keys of a group show their values alike, a group consists of flags or
holds none.

## Main definitions

* `Groups.names`, `Groups.itemsOf` — the names of groups, and what is put into the group of a name
* `Groups.IsPartition` — groups that hold given items
* `Dialect.keys` — the keys that a dialect recognises
* `Dialect.flagGroups` — the groups that consist of flags

## Main results

* `Groups.isPartition_ofList` — the groups that items make up hold these items
* `Dialect.groups_filter` — tags that are not recognised do not matter
* `Dialect.all_uniform` — groups consist of flags, or of texts
* `groups_partition` — what a dialect shows of a list of tags
-/

namespace DocMarkdown

namespace Groups

variable {groups : Groups} {name : String} {item : Item} {items : List (String × Item)}

/-- The names of groups, in order. -/
def names (groups : Groups) : List String := groups.toList.map Prod.fst

/-- The items that are put into the group of a name. -/
def itemsOf (items : List (String × Item)) (name : String) : List Item :=
  (items.filter (·.1 = name)).map Prod.snd

/-- Groups that hold given items, each in its place. -/
structure IsPartition (groups : Groups) (items : List (String × Item)) : Prop where
  /-- No two groups have the same name. -/
  nodup_names : groups.names.Nodup
  /-- The groups stand in the order in which they were first used. -/
  pairwise_names : groups.names.Pairwise fun a b =>
    (items.map Prod.fst).idxOf a < (items.map Prod.fst).idxOf b
  /-- No group is empty. -/
  inhabited : ∀ group ∈ groups.toList, group.2 ≠ []
  /-- A group holds the items that were put into it, and there is none without an item. -/
  get?_eq (name : String) :
    groups.get? name = if name ∈ items.map Prod.fst then some (itemsOf items name) else none
  /-- The groups that are listed are those that are found by their names. -/
  get?_of_mem : ∀ group ∈ groups.toList, groups.get? group.1 = some group.2
  /-- There are as many groups as different names. -/
  size_eq : groups.size = (items.map Prod.fst).toFinset.card
  /-- There are as many items in groups as were put there. -/
  sum_length : (groups.toList.map (·.2.length)).sum = items.length

/-! ### One more item -/

theorem ofList_append_singleton (items : List (String × Item)) (p : String × Item) :
    ofList (items ++ [p]) = (ofList items).add p.1 p.2 :=
  List.foldl_concat ..

theorem map_fst_addTo (list : List (String × List Item)) :
    (addTo name item list).map Prod.fst =
      if name ∈ list.map Prod.fst then list.map Prod.fst else list.map Prod.fst ++ [name] := by
  induction list with
  | nil => rfl
  | cons group rest ih =>
    obtain ⟨first, items⟩ := group
    by_cases same : name = first
    · simp [addTo, same]
    · have known : name ∈ first :: rest.map Prod.fst ↔ name ∈ rest.map Prod.fst := by
        simp [same]
      simp only [addTo, if_neg same, List.map_cons, ih, known]
      split <;> rfl

/-- One more item adds a name only if it is new. -/
theorem names_add :
    (groups.add name item).names =
      if name ∈ groups.names then groups.names else groups.names ++ [name] :=
  map_fst_addTo groups.toList

/-- One more item makes the groups longer by one. -/
theorem sum_length_addTo (list : List (String × List Item)) :
    ((addTo name item list).map (·.2.length)).sum = (list.map (·.2.length)).sum + 1 := by
  induction list with
  | nil => rfl
  | cons group rest ih =>
    obtain ⟨first, items⟩ := group
    rw [addTo]
    split
    · simp only [List.map_cons, List.sum_cons, List.length_append, List.length_singleton]
      omega
    · simp only [List.map_cons, List.sum_cons, ih]
      omega

/-! ### All items -/

theorem mem_names_ofList : name ∈ (ofList items).names ↔ name ∈ items.map Prod.fst := by
  induction items using List.reverseRecOn with
  | nil => exact Iff.rfl
  | append_singleton items p ih =>
    rw [ofList_append_singleton, names_add, List.map_append, List.mem_append, ← ih]
    split
    · next known =>
      refine ⟨Or.inl, ?_⟩
      rintro (old | new)
      · exact old
      · exact List.mem_singleton.mp new ▸ known
    · exact List.mem_append

/-- The names of groups stand in the order in which they first occur. -/
theorem pairwise_names_ofList (items : List (String × Item)) :
    (ofList items).names.Pairwise fun a b =>
      (items.map Prod.fst).idxOf a < (items.map Prod.fst).idxOf b := by
  induction items using List.reverseRecOn with
  | nil => exact .nil
  | append_singleton items p ih =>
    -- The names that were used before are found where they were.
    have found : ∀ a ∈ (ofList items).names,
        ((items ++ [p]).map Prod.fst).idxOf a = (items.map Prod.fst).idxOf a := by
      intro a member
      rw [List.map_append, List.idxOf_append_of_mem (mem_names_ofList.mp member)]
    have before : (ofList items).names.Pairwise fun a b =>
        ((items ++ [p]).map Prod.fst).idxOf a < ((items ++ [p]).map Prod.fst).idxOf b :=
      ih.imp_of_mem fun ha hb less => by rwa [found _ ha, found _ hb]
    rw [ofList_append_singleton, names_add]
    split
    · exact before
    · next new =>
      refine List.pairwise_append.mpr ⟨before, List.pairwise_singleton _ _, fun a ha b hb => ?_⟩
      obtain rfl := List.mem_singleton.mp hb
      have absent : p.1 ∉ items.map Prod.fst := mt mem_names_ofList.mpr new
      rw [found a ha, List.map_append, List.idxOf_append_of_notMem absent]
      exact (List.idxOf_lt_length_of_mem (mem_names_ofList.mp ha)).trans_le (Nat.le_add_right _ _)

theorem nodup_names_ofList (items : List (String × Item)) : (ofList items).names.Nodup :=
  (pairwise_names_ofList items).imp fun {_ _} less =>
    ne_of_apply_ne (items.map Prod.fst).idxOf (Nat.ne_of_lt less)

theorem itemsOf_of_not_mem (h : name ∉ items.map Prod.fst) : itemsOf items name = [] := by
  rw [itemsOf, List.map_eq_nil_iff, List.filter_eq_nil_iff]
  intro p member same
  exact h (of_decide_eq_true same ▸ List.mem_map_of_mem member)

theorem itemsOf_append_singleton (items : List (String × Item)) (p : String × Item)
    (name : String) :
    itemsOf (items ++ [p]) name = itemsOf items name ++ if name = p.1 then [p.2] else [] := by
  rw [itemsOf, List.filter_append, List.map_append]
  by_cases own : name = p.1
  · simp [itemsOf, own]
  · simp [itemsOf, own, Ne.symm own]

/-- A group holds the items that were put into it, in that order. -/
theorem get?_ofList (items : List (String × Item)) (name : String) :
    (ofList items).get? name =
      if name ∈ items.map Prod.fst then some (itemsOf items name) else none := by
  induction items using List.reverseRecOn with
  | nil => rfl
  | append_singleton items p ih =>
    rw [ofList_append_singleton, get?_add, itemsOf_append_singleton]
    by_cases own : name = p.1
    · -- The item comes after those that its group holds already, if there are any.
      subst own
      have member : p.1 ∈ (items ++ [p]).map Prod.fst := List.mem_map_of_mem List.mem_concat_self
      have held : ((ofList items).get? p.1).getD [] = itemsOf items p.1 := by
        rw [ih]
        split
        · rfl
        · next new => exact (itemsOf_of_not_mem new).symm
      rw [if_pos rfl, held, if_pos member, if_pos rfl]
    · have known : name ∈ (items ++ [p]).map Prod.fst ↔ name ∈ items.map Prod.fst := by
        rw [List.map_append, List.mem_append]
        exact or_iff_left (mt List.mem_singleton.mp own)
      simp only [if_neg own, ih, known, List.append_nil]

/-- Where no two groups have the same name, each is found by its name. -/
theorem get?_of_mem (nodup : groups.names.Nodup) {group : String × List Item}
    (member : group ∈ groups.toList) : groups.get? group.1 = some group.2 := by
  obtain ⟨front, back, split⟩ := List.append_of_mem member
  refine List.lookup_eq_some_iff.mpr ⟨front, back, split, fun p hp => ?_⟩
  rw [names, split, List.map_append, List.map_cons] at nodup
  have apart := (List.nodup_append.mp nodup).2.2 p.1 (List.mem_map_of_mem hp) group.1
    List.mem_cons_self
  simpa using Ne.symm apart

theorem sum_length_ofList (items : List (String × Item)) :
    ((ofList items).toList.map (·.2.length)).sum = items.length := by
  induction items using List.reverseRecOn with
  | nil => rfl
  | append_singleton items p ih =>
    rw [ofList_append_singleton, add, sum_length_addTo, ih, List.length_append,
      List.length_singleton]

theorem size_ofList (items : List (String × Item)) :
    (ofList items).size = (items.map Prod.fst).toFinset.card := by
  have same : (ofList items).names.toFinset = (items.map Prod.fst).toFinset := by
    ext name
    rw [List.mem_toFinset, List.mem_toFinset, mem_names_ofList]
  rw [← same, List.toFinset_card_of_nodup (nodup_names_ofList items), names, List.length_map, size]

/-- A group is made when the first item is put into it, so none is empty. -/
theorem ne_nil_of_mem_ofList {group : String × List Item} (member : group ∈ (ofList items).toList) :
    group.2 ≠ [] := by
  have held : (ofList items).All fun _ _ => True := all_ofList fun _ _ => trivial
  exact (held group member).1

/-- The groups that items make up hold these items. -/
theorem isPartition_ofList (items : List (String × Item)) : (ofList items).IsPartition items where
  nodup_names := nodup_names_ofList items
  pairwise_names := pairwise_names_ofList items
  inhabited _ := ne_nil_of_mem_ofList
  get?_eq := get?_ofList items
  get?_of_mem _ := get?_of_mem (nodup_names_ofList items)
  size_eq := size_ofList items
  sum_length := sum_length_ofList items

end Groups

/-! ### The tags that a dialect recognises -/

namespace Dialect

variable {d : Dialect} {tag : Tag} {kind : ValueKind} {key name : String} {item : Item}

/-- The keys that a dialect recognises: those of the table, where types stand in the code without
the one for the type of a variable. -/
def keys : Dialect → List String
  | plain => (recognised.map Prod.fst).filter (· ≠ "var")
  | typed _ => recognised.map Prod.fst

/-- The groups of tags that say nothing but that they are there. -/
def flagGroups : List String := ["Constructor", "Deprecated", "Private"]

theorem isSome_item?_plain {value : Text} :
    (plain.item? kind value).isSome = true ↔ kind ≠ .variableType := by
  cases kind <;> simp [item?]

theorem isSome_item?_typed {style : TypeStyle} {value : Text} :
    ((typed style).item? kind value).isSome = true := by
  cases kind <;> rfl

theorem kind_of_recognised (row : (key, name, kind) ∈ recognised) :
    (kind = .variableType ↔ key = "var") ∧ (kind = .flag ↔ name ∈ flagGroups) := by
  have all : ∀ row ∈ recognised, (row.2.2 = .variableType ↔ row.1 = "var") ∧
      (row.2.2 = .flag ↔ row.2.1 ∈ flagGroups) := by decide
  exact all _ row

/-- A tag has a place if its key is recognised, whatever its value. -/
theorem isSome_place?_iff : (d.place? tag).isSome = true ↔ tag.key ∈ d.keys := by
  cases found : recognised.lookup tag.key with
  | none =>
    have unknown : tag.key ∉ recognised.map Prod.fst := by
      intro member
      obtain ⟨row, inside, same⟩ := List.mem_map.mp member
      simpa [same] using List.lookup_eq_none_iff.mp found row inside
    have absent : tag.key ∉ d.keys := by
      cases d with
      | plain => exact fun member => unknown (List.mem_filter.mp member).1
      | typed style => exact unknown
    simp [place?, found, absent]
  | some row =>
    obtain ⟨group, kind⟩ := row
    have member := mem_recognised_of_lookup found
    have known : tag.key ∈ recognised.map Prod.fst := List.mem_map_of_mem member
    rw [place?_of_lookup found, Option.isSome_map]
    cases d with
    | plain =>
      rw [isSome_item?_plain, keys, List.mem_filter, decide_eq_true_iff, and_iff_right known]
      exact not_congr (kind_of_recognised member).1
    | typed style => exact iff_of_true isSome_item?_typed known

/-- Tags that are not recognised do not matter. -/
theorem groups_filter (d : Dialect) (tags : List Tag) :
    d.groups (tags.filter (·.key ∈ d.keys)) = d.groups tags := by
  rw [groups, groups, List.filterMap_filter]
  refine congrArg _ (List.filterMap_congr fun tag _ => ?_)
  split
  · rfl
  · next unknown =>
    rw [decide_eq_true_iff, ← isSome_place?_iff, Option.not_isSome_iff_eq_none] at unknown
    exact unknown.symm

/-- Values are shown as flags where this is their kind, and as texts everywhere else. -/
theorem eq_flag_iff_of_item? {value : Text} (shown : d.item? kind value = some item) :
    item = .flag ↔ kind = .flag := by
  cases kind with
  | flag =>
    obtain rfl := Option.some.inj shown
    exact iff_of_true rfl rfl
  | prose | code | typed | parameter =>
    obtain rfl := Option.some.inj shown
    exact iff_of_false nofun nofun
  | result =>
    cases d with
    | plain | typed style =>
      obtain rfl := Option.some.inj shown
      exact iff_of_false nofun nofun
  | variableType =>
    cases d with
    | plain => cases shown
    | typed style =>
      obtain rfl := Option.some.inj shown
      exact iff_of_false nofun nofun

/-- A tag is shown as a flag if and only if it is in a group of flags. -/
theorem eq_flag_iff (placed : d.place? tag = some (name, item)) :
    item = .flag ↔ name ∈ flagGroups := by
  obtain ⟨kind, row, shown⟩ := exists_of_place? placed
  exact (eq_flag_iff_of_item? shown).trans (kind_of_recognised row).2

/-- Groups consist of flags, or of texts. -/
theorem all_uniform (d : Dialect) (tags : List Tag) :
    (d.groups tags).All fun name item => item = .flag ↔ name ∈ flagGroups := by
  refine Groups.all_ofList fun p member => ?_
  obtain ⟨tag, -, placed⟩ := List.mem_filterMap.mp member
  exact eq_flag_iff placed

end Dialect

/-- Groups are a stable partition of what is put into them. The groups of a list of tags hold one
item for each tag that is recognised, in the order of the tags, and depend on no other tags. Their
items are flags in some groups and texts in all others, so a flag is never shown as an item with
nothing in it. -/
theorem groups_partition (items : List (String × Item)) (d : Dialect) (tags : List Tag) :
    (Groups.ofList items).IsPartition items ∧
      (d.groups tags).IsPartition (tags.filterMap d.place?) ∧
      (∀ tag, (d.place? tag).isSome ↔ tag.key ∈ d.keys) ∧
      ((d.groups tags).toList.map (·.2.length)).sum = tags.countP (·.key ∈ d.keys) ∧
      d.groups (tags.filter (·.key ∈ d.keys)) = d.groups tags ∧
      ∀ group ∈ (d.groups tags).toList,
        (∀ item ∈ group.2, item = .flag ↔ group.1 ∈ Dialect.flagGroups) ∧
          (.flag ∈ group.2 → Markdown.groupLines group.1 group.2 =
            " * **".toList ++ group.1.toList ++ "**".toList) := by
  have partition := Groups.isPartition_ofList (tags.filterMap d.place?)
  refine ⟨Groups.isPartition_ofList items, partition, fun _ => Dialect.isSome_place?_iff, ?_,
    Dialect.groups_filter d tags, fun group member => ?_⟩
  · rw [Dialect.groups, partition.sum_length, List.length_filterMap_eq_countP]
    exact List.countP_congr fun tag _ => Dialect.isSome_place?_iff.trans decide_eq_true_iff.symm
  · have uniform := (Dialect.all_uniform d tags group member).2
    refine ⟨uniform, fun flagged => Markdown.groupLines_of_flags ?_⟩
    have flags : group.1 ∈ Dialect.flagGroups := (uniform _ flagged).mp rfl
    exact List.all_eq_true.mpr fun item inside => decide_eq_true ((uniform item inside).mpr flags)

-- Two keys of one group, and a tag that is not recognised.
example : (Dialect.plain.groups [⟨"alias", "f".toList⟩, ⟨"private", []⟩, ⟨"var", "int".toList⟩,
      ⟨"name", "g".toList⟩]).toList =
    [("Alias", [.text "f".toList, .text "g".toList]), ("Private", [.flag])] := by decide

end DocMarkdown
