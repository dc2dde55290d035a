import DocMarkdown.Proofs.Batch.Repeating

/-!
# Batches that fail

A batch looks for what is wrong with it before it delivers anything: whether one place is given for
the documents, whether the patterns are patterns, whether the directory can be read and whether the
language is known. Of several faults the first is reported, and the file tree stays as it is. After
that a batch fails only where it writes: then all that was to be written before is there, and
nothing else.

## Main definitions

* `Reports` — a step fails with the first of several faults
* `Batch.faults` — what is wrong with a batch, in the order in which it is reported

## Main results

* `Reports.bind` — the faults of one step after another
* `Batch.reports_plan` — a batch reports the first of its faults
* `FileTree.writeFiles_eq_error_iff` — how writing several files fails
* `Batch.run_directory_eq_error_iff` — how a batch for a directory fails that has no faults
-/

namespace DocMarkdown

/-! ### The first of several faults -/

section Reports

variable {α β : Type} {step : Except Error α} {next : α → Except Error β}
  {faults faults' : List Error}

/-- A step fails if there are faults, and reports the first of them. -/
def Reports (step : Except Error α) (faults : List Error) : Prop :=
  ∀ e, step = .error e ↔ faults.head? = some e

theorem reports_ok (a : α) : Reports (.ok a) [] := by
  simp [Reports]

theorem reports_error (e : Error) : Reports (.error e : Except Error α) [e] := by
  simp [Reports]

theorem Reports.eq_nil (reports : Reports step faults) {a : α} (success : step = .ok a) :
    faults = [] := by
  cases faults with
  | nil => rfl
  | cons e faults =>
    rw [(reports e).mpr rfl] at success
    cases success

/-- Of a step and the one after it, the faults of the first are reported first. -/
theorem Reports.bind (first : Reports step faults) (second : ∀ a, Reports (next a) faults') :
    Reports (step >>= next) (faults ++ faults') := by
  cases step with
  | error e =>
    intro e'
    have failed : (Except.error e >>= next) = .error e := rfl
    rw [failed, List.head?_append, (first e).mp rfl, Option.some_or, Except.error.injEq,
      Option.some.injEq]
  | ok a =>
    -- The faults of the second step do not depend on what the first has found.
    rw [first.eq_nil rfl]
    exact second a

theorem Reports.map (reports : Reports step faults) (f : α → β) : Reports (step.map f) faults := by
  intro e
  rw [← reports e]
  cases step with
  | error e' => rw [Except.map, Except.error.injEq, Except.error.injEq]
  | ok a => exact iff_of_false nofun nofun

end Reports

/-! ### What may be wrong with a batch -/

/-- What is wrong with a pattern, where one is given. -/
def patternFaults : Option String → List Error
  | none => []
  | some pattern => if (Pattern.ofString? pattern).isSome then [] else [.invalidPattern pattern]

theorem reports_acceptMatching (pattern : String) :
    Reports (acceptMatching pattern) (patternFaults (some pattern)) := by
  rw [acceptMatching, patternFaults]
  cases Pattern.ofString? pattern with
  | none => exact reports_error _
  | some p => exact reports_ok _

namespace Batch

variable {batch : Batch} {tree : FileTree} {e : Error}

/-- What is wrong with a batch in a file tree: two places for the documents, a pattern for names
that is none, a pattern for contents that is none, a directory that cannot be read, and an unknown
language. -/
def faults (batch : Batch) (tree : FileTree) : List Error :=
  (if batch.outputDirectory.isSome ∧ batch.outputFile.isSome then [.ambiguousOutput] else []) ++
  (patternFaults batch.namePattern ++ (patternFaults batch.contentsPattern ++
  ((match tree.files batch.directory with
    | .ok _ => []
    | .error reason => [.inaccessible batch.directory reason]) ++
  match Languages.builtIn.find? batch.language with
    | some _ => []
    | none => [.unknownLanguage batch.language])))

theorem reports_checkOutputs (batch : Batch) : Reports batch.checkOutputs
    (if batch.outputDirectory.isSome ∧ batch.outputFile.isSome then [.ambiguousOutput]
      else []) := by
  simp only [checkOutputs, Bool.and_eq_true]
  split
  · exact reports_error _
  · exact reports_ok _

theorem reports_filters (batch : Batch) : Reports batch.filters
    (patternFaults batch.namePattern ++ patternFaults batch.contentsPattern) := by
  have names : Reports batch.nameFilter (patternFaults batch.namePattern) := by
    rw [nameFilter]
    cases batch.namePattern with
    | none => exact reports_ok _
    | some pattern => exact reports_acceptMatching pattern
  have contents : Reports batch.contentsFilter (patternFaults batch.contentsPattern) := by
    rw [contentsFilter]
    cases batch.contentsPattern with
    | none => exact reports_ok _
    | some pattern => exact reports_acceptMatching pattern
  have both := names.bind fun acceptsName => contents.bind fun acceptsContents =>
    reports_ok (Filters.mk acceptsName acceptsContents)
  rwa [List.append_nil] at both

theorem reports_sourceFiles (batch : Batch) (tree : FileTree) :
    Reports (tree.sourceFiles batch.directory)
      (match tree.files batch.directory with
        | .ok _ => []
        | .error reason => [.inaccessible batch.directory reason]) := by
  rw [FileTree.sourceFiles]
  cases tree.files batch.directory with
  | error reason => exact reports_error _
  | ok files => exact reports_ok _

theorem reports_scan (batch : Batch) (filters : Filters) (files : List SourceFile) :
    Reports (batch.scan filters files)
      (match Languages.builtIn.find? batch.language with
        | some _ => []
        | none => [.unknownLanguage batch.language]) := by
  refine .map (.map ?_ _) _
  rw [Languages.find]
  cases Languages.builtIn.find? batch.language with
  | none => exact reports_error _
  | some d => exact reports_ok _

/-- A batch reports the first of its faults. -/
theorem reports_plan (batch : Batch) (tree : FileTree) :
    Reports (batch.plan tree) (batch.faults tree) := by
  -- The faults are listed in the order of the steps.
  have scanned := (reports_filters batch).bind fun filters =>
    (reports_sourceFiles batch tree).bind fun files => reports_scan batch filters files
  have planned := (reports_checkOutputs batch).bind fun _ => scanned.bind fun scan =>
    reports_ok (scan.warnings, batch.delivery scan.documents)
  rwa [List.append_nil, List.append_assoc] at planned

/-- A batch with faults reports the first of them, before it delivers anything. -/
theorem run_of_faults (fault : (batch.faults tree).head? = some e) :
    batch.plan tree = .error e ∧ batch.run tree = (.error e, tree) := by
  have planned := (reports_plan batch tree e).mpr fault
  exact ⟨planned, by rw [run, planned]⟩

/-- A batch without faults is to deliver its documents, to one place. -/
theorem exists_documents_of_faults (sound : batch.faults tree = []) :
    ∃ documents, (batch.outputDirectory = none ∨ batch.outputFile = none) ∧
      batch.documents tree = .ok documents ∧
        batch.run tree = (batch.delivery documents).carryOut tree := by
  cases planned : batch.plan tree with
  | error e =>
    have fault := (reports_plan batch tree e).mp planned
    rw [sound] at fault
    cases fault
  | ok plan =>
    obtain ⟨warnings, delivery⟩ := plan
    obtain ⟨documents, one, converted, rfl⟩ := exists_of_plan planned
    exact ⟨documents, one, converted, run_eq_carryOut batch one converted⟩

end Batch

/-! ### Where writing stops -/

namespace FileTree

variable {before middle after : FileTree} {e : Error} {files front : List (String × String)}

/-- After some files the others are written to the tree that these have left. -/
theorem writeFiles_append (written : before.writeFiles front = (.ok (), middle))
    (back : List (String × String)) :
    before.writeFiles (front ++ back) = middle.writeFiles back := by
  induction front generalizing before with
  | nil =>
    obtain rfl : before = middle := (Prod.mk.inj written).2
    rfl
  | cons file front ih =>
    obtain ⟨next, first, others⟩ := exists_of_writeFiles_cons written
    rw [List.cons_append, writeFiles, first]
    exact ih others

/-- Writing files fails at the first that cannot be written: the error names it, and the files
before it are written. -/
theorem writeFiles_eq_error_iff : before.writeFiles files = (.error e, after) ↔
    ∃ front file back reason, files = front ++ file :: back ∧
      before.writeFiles front = (.ok (), after) ∧
      after.writeFile file.1 file.2.toUTF8 = .error reason ∧ e = .inaccessible file.1 reason := by
  constructor
  · -- By induction on the files: the first of them stops the others, or is written before them.
    intro failed
    induction files generalizing before with
    | nil => cases (Prod.mk.inj failed).1
    | cons file files ih =>
      rw [writeFiles] at failed
      cases step : before.writeFile file.1 file.2.toUTF8 with
      | error reason =>
        rw [step] at failed
        obtain ⟨same, rfl⟩ := Prod.mk.inj failed
        exact ⟨[], file, files, reason, rfl, rfl, step, (Except.error.inj same).symm⟩
      | ok next =>
        rw [step] at failed
        obtain ⟨front, last, back, reason, rfl, written, stops, same⟩ := ih failed
        refine ⟨file :: front, last, back, reason, rfl, ?_, stops, same⟩
        rw [writeFiles, step]
        exact written
  · rintro ⟨front, file, back, reason, rfl, written, stops, rfl⟩
    rw [writeFiles_append written, writeFiles, stops]

end FileTree

namespace Delivery

variable {delivery : Delivery} {before after : FileTree} {e : Error} {path : String}
  {files : List (String × String)}

theorem carryOut_eq_error_iff :
    delivery.carryOut before = (.error e, after) ↔ delivery.write before = (.error e, after) := by
  simp only [carryOut, Prod.ext_iff]
  refine and_congr_left fun _ => ?_
  cases (delivery.write before).1 with
  | error e' => simp only [Except.map, Except.error.injEq]
  | ok => simp only [Except.map, reduceCtorEq]

/-- A delivery to a directory fails as the directory is made, or at the first file that cannot be
written. -/
theorem write_directory_eq_error_iff :
    (directory path files).write before = (.error e, after) ↔
      (∃ reason, before.makeDirectories path = (.error reason, after) ∧
        e = .inaccessible path reason) ∨
      ∃ front file back reason, files = front ++ file :: back ∧
        (directory path front).write before = (.ok (), after) ∧
        after.writeFile file.1 file.2.toUTF8 = .error reason ∧ e = .inaccessible file.1 reason := by
  simp only [write]
  cases made : before.makeDirectories path with
  | mk result middle =>
    cases result with
    | error reason =>
      constructor
      · intro failed
        obtain ⟨same, rfl⟩ := Prod.mk.inj failed
        exact .inl ⟨reason, rfl, (Except.error.inj same).symm⟩
      · rintro (⟨reason', same, rfl⟩ | ⟨front, file, back, reason', -, written, -⟩)
        · obtain ⟨own, rfl⟩ := Prod.mk.inj same
          rw [Except.error.inj own]
        · cases (Prod.mk.inj written).1
    | ok =>
      have made' : ¬ ∃ reason, (Except.ok (), middle) = (.error reason, after) ∧
          e = .inaccessible path reason := by
        rintro ⟨reason, same, -⟩
        cases (Prod.mk.inj same).1
      rw [or_iff_right made']
      exact FileTree.writeFiles_eq_error_iff

/-- What stops a delivery is that something cannot be written. -/
theorem exists_inaccessible_of_write (failed : delivery.write before = (.error e, after)) :
    ∃ path reason, e = .inaccessible path reason := by
  cases delivery with
  | nothing | stream text => cases (Prod.mk.inj failed).1
  | file path text =>
    obtain ⟨front, file, back, reason, -, -, -, rfl⟩ := FileTree.writeFiles_eq_error_iff.mp failed
    exact ⟨_, reason, rfl⟩
  | directory path files =>
    rcases write_directory_eq_error_iff.mp failed with
      ⟨reason, -, rfl⟩ | ⟨front, file, back, reason, -, -, -, rfl⟩
    · exact ⟨_, reason, rfl⟩
    · exact ⟨_, reason, rfl⟩

end Delivery

namespace Batch

variable {batch : Batch} {tree after : FileTree} {e : Error} {path : String} {documents : Named}
  {front : List (String × String)}

/-- What a batch without faults fails at is writing. -/
theorem exists_inaccessible_of_run (sound : batch.faults tree = [])
    (failed : batch.run tree = (.error e, after)) :
    ∃ path reason, e = .inaccessible path reason := by
  obtain ⟨documents, -, -, ran⟩ := exists_documents_of_faults sound
  rw [ran, Delivery.carryOut_eq_error_iff] at failed
  exact Delivery.exists_inaccessible_of_write failed

/-- A batch for a directory fails as the directory is made, or at the first document that cannot be
written. The documents before it are then delivered as if there were no others. -/
theorem run_directory_eq_error_iff (several : batch.outputDirectory = some path)
    (noFile : batch.outputFile = none) (converted : batch.documents tree = .ok documents) :
    batch.run tree = (.error e, after) ↔
      (∃ reason, tree.makeDirectories path = (.error reason, after) ∧
        e = .inaccessible path reason) ∨
      ∃ front doc back reason, titledAll documents = front ++ doc :: back ∧
        (Delivery.directory path (front.map (fileIn path))).write tree = (.ok (), after) ∧
        after.writeFile (fileIn path doc).1 (fileIn path doc).2.toUTF8 = .error reason ∧
        e = .inaccessible (fileIn path doc).1 reason := by
  rw [run_eq_carryOut batch (.inr noFile) converted, delivery_directory several noFile,
    Delivery.carryOut_eq_error_iff, Delivery.write_directory_eq_error_iff]
  -- The file that cannot be written is that of a document, and those before it are of the documents
  -- before this one.
  refine or_congr_right ⟨?_, ?_⟩
  · rintro ⟨_, _, _, reason, split, written, stops, same⟩
    obtain ⟨front, others, whole, rfl, others_eq⟩ := List.map_eq_append_iff.mp split
    obtain ⟨doc, back, rfl, rfl, -⟩ := List.map_eq_cons_iff.mp others_eq
    exact ⟨front, doc, back, reason, whole, written, stops, same⟩
  · rintro ⟨front, doc, back, reason, split, written, stops, same⟩
    exact ⟨_, _, _, reason, by rw [split, List.map_append, List.map_cons], written, stops, same⟩

end Batch

end DocMarkdown
