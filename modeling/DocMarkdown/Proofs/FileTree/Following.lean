import DocMarkdown.FileTree.Basic
import Mathlib.Data.List.Basic

/-!
# Following paths

A path leads through directories to the place that its last name has in the last of them. Where
directories are not removed, a path that leads to a directory goes on leading there, and so does the
way to any other place.

## Main definitions

* `Place.of` — a location as a place, from what stands there
* `FileTree.Keeps` — the directories of one tree are directories in another

## Main results

* `follow_append_singleton` — the way through directories and the last name
* `follow_eq_directory_iff` — what leads to a directory
* `exists_way` — what leads to a place that is no directory
* `Keeps.locate` — directories that are kept are reached as before
* `Keeps.locate_of` — and so are other places
-/

namespace DocMarkdown

/-- A location as a place, from what stands there. -/
def Place.of (location : Location) : Option Node → Place
  | some .directory => .directory location
  | some (.file contents) => .file location contents
  | none => .vacant location

theorem Place.of_eq_directory_iff {location other : Location} {node : Option Node} :
    Place.of location node = .directory other ↔ node = some .directory ∧ location = other := by
  rcases node with _ | _ | contents <;> simp [Place.of]

theorem Place.of_eq_vacant_iff {location other : Location} {node : Option Node} :
    Place.of location node = .vacant other ↔ node = none ∧ location = other := by
  rcases node with _ | _ | contents <;> simp [Place.of]

theorem Place.of_eq_file_iff {location other : Location} {node : Option Node}
    {contents : ByteArray} :
    Place.of location node = .file other contents ↔
      node = some (.file contents) ∧ location = other := by
  rcases node with _ | _ | contents' <;> simp [Place.of, and_comm]

/-- A place tells its location and what stands there. -/
theorem Place.of_inj {location other : Location} {node node' : Option Node} :
    Place.of location node = Place.of other node' ↔ location = other ∧ node = node' := by
  rcases node with _ | _ | contents <;> rcases node' with _ | _ | contents' <;> simp [Place.of]

namespace FileTree

variable {tree before after : FileTree} {here location : Location} {name path : String}
  {names : List String} {node : Option Node} {place : Place}

/-! ### One name -/

/-- A name that neither stays nor goes back means what stands at its location. -/
theorem look_of_name (moves : name ≠ "." ∧ name ≠ "..")
    (short : ¬ Path.maxNameSize < name.utf8ByteSize) :
    tree.look here name = .ok (.of (here ++ [name]) (tree.node? (here ++ [name]))) := by
  rw [look, if_neg moves.1, if_neg moves.2, if_neg short]
  dsimp only
  split <;> simp [Place.of, *]

/-- A name that means no directory neither stays nor goes back. -/
theorem moves_of_look (found : tree.look here name = .ok place)
    (other : ∀ l, place ≠ .directory l) :
    (name ≠ "." ∧ name ≠ "..") ∧ ¬ Path.maxNameSize < name.utf8ByteSize := by
  rw [look] at found
  split at found
  · exact absurd (Except.ok.inj found).symm (other _)
  · next notStay =>
    split at found
    · exact absurd (Except.ok.inj found).symm (other _)
    · next notBack =>
      split at found
      · cases found
      · next short => exact ⟨⟨notStay, notBack⟩, short⟩

/-- A name means a directory if it stays, goes back, or if a directory stands at its location. -/
theorem look_eq_directory_iff :
    tree.look here name = .ok (.directory location) ↔
      name = "." ∧ here = location ∨ name = ".." ∧ here.dropLast = location ∨
        (name ≠ "." ∧ name ≠ "..") ∧ ¬ Path.maxNameSize < name.utf8ByteSize ∧
          tree.node? (here ++ [name]) = some .directory ∧ here ++ [name] = location := by
  by_cases stays : name = "."
  · simp [look, stays]
  · by_cases back : name = ".."
    · simp [look, back]
    · by_cases long : Path.maxNameSize < name.utf8ByteSize
      · simp [look, stays, back, long]
      · simp [look_of_name ⟨stays, back⟩ long, Place.of_eq_directory_iff, stays, back, long]

theorem enter_eq_ok_iff :
    tree.enter here name = .ok location ↔ tree.look here name = .ok (.directory location) := by
  rw [enter]
  cases tree.look here name with
  | error e => simp [bind, Except.bind]
  | ok place => cases place <;> simp [bind, Except.bind]

/-! ### Several names -/

theorem follow_cons (more : names ≠ []) :
    tree.follow here (name :: names) =
      (tree.enter here name).bind fun next => tree.follow next names := by
  rw [follow]
  · rfl
  · exact more

/-- Names lead through the directories of all but the last to what the last one means there. -/
theorem follow_append_singleton :
    tree.follow here (names ++ [name]) =
      (names.foldlM tree.enter here).bind fun directory => tree.look directory name := by
  induction names generalizing here with
  | nil => rfl
  | cons first names ih =>
    rw [List.cons_append, follow_cons (by simp), List.foldlM_cons]
    cases tree.enter here first with
    | error e => rfl
    | ok next => exact ih

/-- Names lead to a directory if each of them can be entered. -/
theorem follow_eq_directory_iff :
    tree.follow here names = .ok (.directory location) ↔
      names.foldlM tree.enter here = .ok location := by
  rcases List.eq_nil_or_concat names with rfl | ⟨front, last, rfl⟩
  · simp [follow, pure, Except.pure]
  · simp only [List.concat_eq_append, follow_append_singleton, List.foldlM_append,
      List.foldlM_cons, List.foldlM_nil, bind_pure]
    cases front.foldlM tree.enter here with
    | error e => simp [bind, Except.bind]
    | ok directory => exact enter_eq_ok_iff.symm

/-- Names that lead to no directory lead through directories to what stands at their last name. -/
theorem exists_way (found : tree.follow here names = .ok place)
    (other : ∀ l, place ≠ .directory l) :
    ∃ front last directory, names = front ++ [last] ∧ (last ≠ "." ∧ last ≠ "..") ∧
      ¬ Path.maxNameSize < last.utf8ByteSize ∧ front.foldlM tree.enter here = .ok directory ∧
      place = .of (directory ++ [last]) (tree.node? (directory ++ [last])) := by
  rcases List.eq_nil_or_concat names with rfl | ⟨front, last, rfl⟩
  · exact absurd (Except.ok.inj found).symm (other _)
  · rw [List.concat_eq_append, follow_append_singleton] at found
    cases way : front.foldlM tree.enter here with
    | error e =>
      rw [way] at found
      cases found
    | ok directory =>
      rw [way] at found
      change tree.look directory last = .ok place at found
      obtain ⟨moves, short⟩ := moves_of_look found other
      rw [look_of_name moves short] at found
      exact ⟨front, last, directory, List.concat_eq_append, moves, short, way,
        (Except.ok.inj found).symm⟩

/-- Names that lead to no directory lead to what stands somewhere. -/
theorem exists_of_follow (found : tree.follow here names = .ok place)
    (other : ∀ l, place ≠ .directory l) :
    ∃ location, place = .of location (tree.node? location) ∧
      tree.node? location ≠ some .directory := by
  obtain ⟨front, last, directory, -, -, -, -, same⟩ := exists_way found other
  refine ⟨directory ++ [last], same, fun there => other (directory ++ [last]) ?_⟩
  rw [same, there]
  rfl

theorem locate_eq_ok_iff :
    tree.locate path = .ok place ↔
      ∃ names, Path.names path = .ok names ∧ tree.follow [] names = .ok place := by
  rw [locate]
  cases Path.names path with
  | error e => simp [bind, Except.bind]
  | ok names => simp [bind, Except.bind]

/-! ### Trees that keep directories -/

/-- The directories of one tree are directories in another. -/
def Keeps (before after : FileTree) : Prop :=
  ∀ location, before.node? location = some .directory → after.node? location = some .directory

theorem Keeps.refl (tree : FileTree) : tree.Keeps tree := fun _ there => there

theorem Keeps.trans {middle : FileTree} (earlier : before.Keeps middle)
    (later : middle.Keeps after) : before.Keeps after :=
  fun location there => later location (earlier location there)

theorem Keeps.look (keeps : before.Keeps after)
    (found : before.look here name = .ok (.directory location)) :
    after.look here name = .ok (.directory location) := by
  rw [look_eq_directory_iff] at found ⊢
  rcases found with stays | back | ⟨moves, short, there, same⟩
  · exact .inl stays
  · exact .inr (.inl back)
  · exact .inr (.inr ⟨moves, short, keeps _ there, same⟩)

theorem Keeps.foldlM_enter (keeps : before.Keeps after)
    (way : names.foldlM before.enter here = .ok location) :
    names.foldlM after.enter here = .ok location := by
  induction names generalizing here with
  | nil => exact way
  | cons name names ih =>
    rw [List.foldlM_cons] at way ⊢
    cases entered : before.enter here name with
    | error e => simp [entered, bind, Except.bind] at way
    | ok next =>
      have entered' := enter_eq_ok_iff.mpr (keeps.look (enter_eq_ok_iff.mp entered))
      rw [entered] at way
      rw [entered']
      exact ih way

/-- Directories that are kept are reached as before. -/
theorem Keeps.follow (keeps : before.Keeps after)
    (found : before.follow here names = .ok (.directory location)) :
    after.follow here names = .ok (.directory location) :=
  follow_eq_directory_iff.mpr (keeps.foldlM_enter (follow_eq_directory_iff.mp found))

/-- What leads to no directory leads, where directories are kept, to what stands at the same
location. -/
theorem Keeps.follow_of (keeps : before.Keeps after)
    (found : before.follow here names = .ok (.of location node)) (other : node ≠ some .directory) :
    after.follow here names = .ok (.of location (after.node? location)) := by
  obtain ⟨front, last, directory, rfl, moves, short, way, same⟩ :=
    exists_way found fun l same => other (Place.of_eq_directory_iff.mp same).1
  rw [(Place.of_inj.mp same).1, follow_append_singleton, keeps.foldlM_enter way]
  exact look_of_name moves short

theorem Keeps.locate (keeps : before.Keeps after)
    (found : before.locate path = .ok (.directory location)) :
    after.locate path = .ok (.directory location) := by
  obtain ⟨names, named, found⟩ := locate_eq_ok_iff.mp found
  exact locate_eq_ok_iff.mpr ⟨names, named, keeps.follow found⟩

theorem Keeps.locate_of (keeps : before.Keeps after)
    (found : before.locate path = .ok (.of location node)) (other : node ≠ some .directory) :
    after.locate path = .ok (.of location (after.node? location)) := by
  obtain ⟨names, named, found⟩ := locate_eq_ok_iff.mp found
  exact locate_eq_ok_iff.mpr ⟨names, named, keeps.follow_of found other⟩

/-- What leads to a file leads, where directories are kept, to what stands at the same location. -/
theorem Keeps.locate_of_file {contents : ByteArray} (keeps : before.Keeps after)
    (found : before.locate path = .ok (.file location contents)) :
    after.locate path = .ok (.of location (after.node? location)) := by
  have found : before.locate path = .ok (.of location (some (.file contents))) := found
  exact keeps.locate_of found nofun

theorem Keeps.locate_file {contents contents' : ByteArray} (keeps : before.Keeps after)
    (found : before.locate path = .ok (.file location contents))
    (there : after.node? location = some (.file contents')) :
    after.locate path = .ok (.file location contents') := by
  rw [keeps.locate_of_file found, there]
  rfl

/-- A file stands where the path to it leads. -/
theorem node?_of_locate_file {contents : ByteArray}
    (found : tree.locate path = .ok (.file location contents)) :
    tree.node? location = some (.file contents) := by
  have own := (Keeps.refl tree).locate_of_file found
  exact (Place.of_eq_file_iff.mp (Except.ok.inj (own.symm.trans found))).1

end FileTree

end DocMarkdown
