import DocMarkdown.Text.Blank

/-!
# Groups of items

Tags are shown in groups. Groups keep the order in which they first get an item, and items keep
their order inside a group.

## Main definitions

* `Item` — one item of a group: a text, or the mere presence of a tag
* `Groups` — named groups of items
* `Groups.add` — one more item at the end of a group
* `Groups.get?` — the items of a group

## Main results

* `get?_add` — adding an item changes its own group only
-/

namespace DocMarkdown

/-- One item of a group. -/
inductive Item where
  /-- What the tag says. -/
  | text (t : Text)
  /-- The tag is there, and says nothing more. -/
  | flag
deriving DecidableEq, Repr

/-- Named groups of items, in the order in which they are shown. -/
structure Groups where
  toList : List (String × List Item)
deriving DecidableEq, Repr

namespace Groups

/-- No groups. -/
def empty : Groups := ⟨[]⟩

/-- There are no groups. -/
def isEmpty (groups : Groups) : Bool := groups.toList.isEmpty

/-- The number of groups. -/
def size (groups : Groups) : Nat := groups.toList.length

/-- The items of a group; `none` for a group that has none. -/
def get? (groups : Groups) (name : String) : Option (List Item) := groups.toList.lookup name

/-- The list of groups with one more item at the end of a group, which comes last if it is new. -/
def addTo (name : String) (item : Item) : List (String × List Item) → List (String × List Item)
  | [] => [(name, [item])]
  | (other, items) :: rest =>
    if name = other then (other, items ++ [item]) :: rest
    else (other, items) :: addTo name item rest

/-- One more item at the end of a group. -/
def add (groups : Groups) (name : String) (item : Item) : Groups :=
  ⟨addTo name item groups.toList⟩

/-- The groups that a sequence of items makes up. -/
def ofList (items : List (String × Item)) : Groups :=
  items.foldl (fun groups (name, item) => groups.add name item) empty

@[simp] theorem get?_empty (name : String) : empty.get? name = none := rfl

theorem lookup_addTo (name other : String) (item : Item) (groups : List (String × List Item)) :
    (addTo name item groups).lookup other =
      if other = name then some ((groups.lookup name).getD [] ++ [item])
      else groups.lookup other := by
  induction groups with
  | nil =>
    by_cases h : other = name
    · simp [addTo, h]
    · simp [addTo, List.lookup_cons, h, beq_eq_false_iff_ne.mpr h]
  | cons group rest ih =>
    obtain ⟨first, items⟩ := group
    by_cases same : name = first
    · subst same
      by_cases h : other = name
      · simp [addTo, h]
      · simp [addTo, List.lookup_cons, h, beq_eq_false_iff_ne.mpr h]
    · by_cases h : other = first
      · subst h
        simp [addTo, same, Ne.symm same]
      · simp only [addTo, if_neg same, List.lookup_cons, beq_eq_false_iff_ne.mpr h,
          beq_eq_false_iff_ne.mpr same, ih]

/-- Adding an item changes its own group only. -/
theorem get?_add (groups : Groups) (name other : String) (item : Item) :
    (groups.add name item).get? other =
      if other = name then some ((groups.get? name).getD [] ++ [item]) else groups.get? other :=
  lookup_addTo name other item groups.toList

end Groups

end DocMarkdown
