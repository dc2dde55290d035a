import DocMarkdown.Batch.Selection
import Mathlib.Data.List.Nodup

/-!
# What stands in a directory

The listing of a directory holds what stands directly inside it, each by its name there, and no name
twice.

## Main results

* `mem_entries` — what is listed for a location is what stands there
* `nodup_entries` — no name is listed twice
* `exists_sourceFiles` — the files of a directory
-/

namespace DocMarkdown

namespace FileTree

variable {tree : FileTree} {location l : Location} {name : String} {node n : Node}

/-- A location is listed under a name for the directory that the name is added to. -/
theorem listed_iff :
    (if l.dropLast = location then l.getLast?.map (·, n) else none) = some (name, node) ↔
      l = location ++ [name] ∧ n = node := by
  constructor
  · intro listed
    split at listed
    · next inside =>
      obtain ⟨last, found, same⟩ := Option.map_eq_some_iff.mp listed
      obtain ⟨rfl, rfl⟩ := Prod.mk.inj same
      subst inside
      exact ⟨(List.dropLast_append_getLast? last found).symm, rfl⟩
    · cases listed
  · rintro ⟨rfl, rfl⟩
    simp

/-- What is listed for a location is what stands there. -/
theorem mem_entries :
    (name, node) ∈ tree.entries location ↔ tree.node? (location ++ [name]) = some node := by
  have below : location ++ [name] ≠ [] := by simp
  rw [node?, if_neg below, ← Std.ExtTreeMap.mem_toList_iff_getElem?_eq_some, entries, toList,
    List.mem_filterMap]
  constructor
  · rintro ⟨⟨l, n⟩, member, listed⟩
    obtain ⟨rfl, rfl⟩ := listed_iff.mp listed
    exact member
  · intro member
    exact ⟨_, member, listed_iff.mpr ⟨rfl, rfl⟩⟩

/-- No name is listed twice. -/
theorem nodup_entries : ((tree.entries location).map (·.1)).Nodup := by
  rw [List.Nodup, List.pairwise_map, entries, List.pairwise_filterMap]
  refine Std.ExtTreeMap.distinct_keys_toList.imp ?_
  rintro ⟨l, n⟩ ⟨l', n'⟩ distinct ⟨name, node⟩ listed ⟨name', node'⟩ listed' same
  apply distinct
  rw [Std.LawfulEqCmp.compare_eq_iff_eq, (listed_iff.mp listed).1, (listed_iff.mp listed').1]
  exact congrArg (location ++ [·]) same

/-- What is listed is read if it is a file and its path is not too long. -/
theorem read_iff {directory other : String} {contents : ByteArray} :
    (match node with
      | .file contents =>
        if Path.isTooLong (Path.join directory name) then none else some (name, contents)
      | .directory => none) = some (other, contents) ↔
        name = other ∧ node = .file contents ∧
          Path.isTooLong (Path.join directory name) = false := by
  cases node with
  | directory => simp
  | file own =>
    by_cases long : Path.isTooLong (Path.join directory name) = true
    · simp [long]
    · simp [long]

theorem exists_files {directory : String}
    (readable : tree.locate directory = .ok (.directory location)) :
    ∃ files, tree.files directory = .ok files ∧ (files.map (·.1)).Nodup ∧
      ∀ name contents, (name, contents) ∈ files ↔
        tree.node? (location ++ [name]) = some (.file contents) ∧
          Path.isTooLong (Path.join directory name) = false := by
  refine ⟨_, by rw [files, readable]; rfl, ?_, fun name contents => ?_⟩
  · rw [List.Nodup, List.pairwise_map, List.pairwise_filterMap]
    refine (List.pairwise_map.mp nodup_entries).imp ?_
    rintro ⟨name, node⟩ ⟨name', node'⟩ distinct ⟨other, contents⟩ read ⟨other', contents'⟩ read'
    obtain ⟨rfl, -⟩ := read_iff.mp read
    obtain ⟨rfl, -⟩ := read_iff.mp read'
    exact distinct
  · rw [List.mem_filterMap, ← mem_entries]
    constructor
    · rintro ⟨⟨own, node⟩, member, read⟩
      obtain ⟨rfl, rfl, short⟩ := read_iff.mp read
      exact ⟨member, short⟩
    · rintro ⟨member, short⟩
      exact ⟨_, member, read_iff.mpr ⟨rfl, rfl, short⟩⟩

/-- The files of a directory are the files directly inside it the paths of which are not too long,
each listed once. -/
theorem exists_sourceFiles {directory : String}
    (readable : tree.locate directory = .ok (.directory location)) :
    ∃ files, tree.sourceFiles directory = .ok files ∧ (files.map (·.name)).Nodup ∧
      ∀ file : SourceFile, file ∈ files ↔
        tree.node? (location ++ [file.name]) = some (.file file.contents) ∧
          Path.isTooLong (Path.join directory file.name) = false := by
  obtain ⟨files, found, distinct, listed⟩ := exists_files readable
  refine ⟨_, by rw [sourceFiles, found], ?_, ?_⟩
  · rw [List.map_map]
    exact distinct
  · rintro ⟨name, contents⟩
    rw [← listed]
    simp

/-- Only a directory has files. -/
theorem exists_locate_of_sourceFiles {directory : String} {files : List SourceFile}
    (listed : tree.sourceFiles directory = .ok files) :
    ∃ location, tree.locate directory = .ok (.directory location) := by
  rw [sourceFiles, FileTree.files] at listed
  cases located : tree.locate directory with
  | error e =>
    rw [located] at listed
    cases listed
  | ok place =>
    rw [located] at listed
    cases place with
    | directory location => exact ⟨location, rfl⟩
    | file location contents | vacant location => cases listed

end FileTree

end DocMarkdown
