import DocMarkdown.Batch.Delivery
import DocMarkdown.Proofs.Batch.Scanning
import DocMarkdown.Proofs.FileTree.Writing

/-!
# Delivering documents

The documents of a batch are the same on a stream, in a file and in a directory, with one line feed
between two of them or one file for each. What is not written to stays as it is, but for the
directories that are made.

## Main definitions

* `titledAll` — the documents of a batch as they are delivered
* `Batch.fileIn` — the file of a document in a directory
* `Batch.Wrote` — some documents are in a directory, and nothing else is changed

## Main results

* `FileTree.writeFiles_join` — the files of a directory, written one after another
* `Batch.delivery_stream`, `Batch.delivery_file`, `Batch.delivery_directory` — what is delivered
* `Batch.wrote_of_write` — some of the documents, written to a directory
* `Batch.isWellNamed_run` — a batch leaves a tree well-named
* `Batch.run_delivers` — the three ways to deliver the documents of a batch
-/

namespace DocMarkdown

open Letters (bytes)

/-! ### Files of a directory -/

namespace FileTree

variable {before after : FileTree} {path : String} {base : Location}
  {files : List (String × String)}

/-- The files of a directory, written one after another. -/
theorem writeFiles_join (parts : ∀ file ∈ files, Path.IsPart file.1)
    (distinct : (files.map (·.1)).Nodup) (leads : before.LeadsTo path base)
    (written : before.writeFiles (files.map fun (name, text) => (Path.join path name, text)) =
      (.ok (), after)) :
    before.Keeps after ∧
      (∀ name text, (name, text) ∈ files →
        after.locate (Path.join path name) = .ok (.file (base ++ [name]) text.toUTF8)) ∧
      ∀ location, (∀ name ∈ files.map (·.1), location ≠ base ++ [name]) →
        after.node? location = before.node? location := by
  -- By induction on the files: each is put directly inside the directory, which stays where it is.
  induction files generalizing before with
  | nil =>
    obtain rfl : before = after := (Prod.mk.inj written).2
    exact ⟨.refl before, by simp, fun _ _ => rfl⟩
  | cons file files ih =>
    obtain ⟨name, text⟩ := file
    rw [List.map_cons, writeFiles] at written
    cases step : before.writeFile (Path.join path name) text.toUTF8 with
    | error e =>
      rw [step] at written
      cases written
    | ok middle =>
      rw [step] at written
      obtain ⟨fresh, distinct⟩ := List.nodup_cons.mp distinct
      obtain ⟨free, put, found⟩ := writeFile_join (parts _ List.mem_cons_self) leads step
      have kept : before.Keeps middle := put ▸ keeps_put free
      obtain ⟨keeps, holds, same⟩ :=
        ih (fun file member => parts file (List.mem_cons_of_mem _ member)) distinct
          (kept.leadsTo leads) written
      refine ⟨kept.trans keeps, fun name' text' member => ?_, fun location other => ?_⟩
      · rcases List.mem_cons.mp member with first | member
        · obtain ⟨rfl, rfl⟩ := Prod.mk.inj first
          -- The files written later have other names.
          have apart : ∀ later ∈ files.map (·.1), base ++ [name'] ≠ base ++ [later] := by
            intro later member equal
            exact fresh ((List.cons.inj (List.append_cancel_left equal)).1 ▸ member)
          have there : after.node? (base ++ [name']) = some (.file text'.toUTF8) := by
            rw [same _ apart, put, node?_put_of_free free, if_pos rfl]
          exact keeps.locate_file found there
        · exact holds name' text' member
      · rw [same location fun name' member => other name' (List.mem_cons_of_mem _ member), put,
          node?_put_of_free free, if_neg (Ne.symm (other name List.mem_cons_self))]

theorem IsWellNamed.writeFiles (named : before.IsWellNamed) (files : List (String × String)) :
    (before.writeFiles files).2.IsWellNamed := by
  induction files generalizing before with
  | nil => exact named
  | cons file files ih =>
    obtain ⟨path, text⟩ := file
    rw [FileTree.writeFiles]
    cases written : before.writeFile path text.toUTF8 with
    | error e => exact named
    | ok middle => exact ih (named.writeFile written)

end FileTree

/-! ### Carrying out a delivery -/

namespace Delivery

variable {delivery : Delivery} {delivered : Delivered} {before after : FileTree}
  {path text : String} {files : List (String × String)}

theorem write_of_carryOut (done : delivery.carryOut before = (.ok delivered, after)) :
    delivery.write before = (.ok (), after) ∧ delivered = delivery.outcome := by
  rw [carryOut] at done
  obtain ⟨reported, left⟩ := Prod.mk.inj done
  cases written : delivery.write before with
  | mk result own =>
    rw [written] at reported left
    cases result with
    | error e => cases reported
    | ok => exact ⟨by rw [← left], (Except.ok.inj reported).symm⟩

/-- One file is written and no other place is changed. -/
theorem exists_of_write_file (written : (file path text).write before = (.ok (), after)) :
    ∃ location, after.locate path = .ok (.file location text.toUTF8) ∧
      ∀ other, other ≠ location → after.node? other = before.node? other := by
  rw [write, FileTree.writeFiles] at written
  cases step : before.writeFile path text.toUTF8 with
  | error e =>
    rw [step] at written
    cases written
  | ok own =>
    rw [step] at written
    obtain rfl : own = after := (Prod.mk.inj written).2
    obtain ⟨location, free, located, rfl⟩ := FileTree.exists_of_writeFile step
    refine ⟨location, FileTree.locate_of_writeFile located free, fun other apart => ?_⟩
    rw [FileTree.node?_put_of_free free, if_neg (Ne.symm apart)]

/-- The files of a directory are written directly inside it, and no other place is changed but for
the directories made on the way to it. -/
theorem exists_of_write_directory (parts : ∀ file ∈ files, Path.IsPart file.1)
    (distinct : (files.map (·.1)).Nodup)
    (written : (directory path (files.map fun (name, text) => (Path.join path name, text))).write
      before = (.ok (), after)) :
    ∃ base, after.LeadsTo path base ∧
      (∀ name text, (name, text) ∈ files →
        after.locate (Path.join path name) = .ok (.file (base ++ [name]) text.toUTF8)) ∧
      ∀ location, (∀ name ∈ files.map (·.1), location ≠ base ++ [name]) →
        FileTree.SameOrMade (FileTree.waysTo path) before after location := by
  rw [write] at written
  cases made : before.makeDirectories path with
  | mk result middle =>
    rw [made] at written
    cases result with
    | error e => cases written
    | ok =>
      obtain ⟨base, leads⟩ := FileTree.exists_leadsTo_of_makeDirectories made
      have adds := FileTree.addsDirectories_makeDirectories before path
      rw [made] at adds
      obtain ⟨keeps, holds, same⟩ := FileTree.writeFiles_join parts distinct leads written
      refine ⟨base, keeps.leadsTo leads, holds, fun location apart => ?_⟩
      -- What the files leave alone is what making the directory left.
      rcases adds location with as | ⟨nothing, there, names, way, leads⟩
      · exact .inl ((same location apart).trans as)
      · exact .inr ⟨nothing, (same location apart).trans there, names, way, keeps.follow leads⟩

theorem isWellNamed_write (delivery : Delivery) (named : before.IsWellNamed) :
    (delivery.write before).2.IsWellNamed := by
  cases delivery with
  | nothing | stream text => exact named
  | file path text => exact named.writeFiles [(path, text)]
  | directory path files =>
    rw [write]
    have made := named.makeDirectories path
    split
    · next middle same =>
      rw [same] at made
      exact made.writeFiles files
    · next reason middle same =>
      rw [same] at made
      exact made

end Delivery

/-! ### Documents in order -/

/-- The documents in the order of their names, each with its name as a title. -/
def titledAll (documents : Named) : List (String × String) :=
  documents.toList.map fun (name, document) => (name, titled name document)

theorem mem_titledAll {documents : Named} {name text : String} :
    (name, text) ∈ titledAll documents ↔
      ∃ document, documents[name]? = some document ∧ text = titled name document := by
  rw [titledAll, List.mem_map]
  constructor
  · rintro ⟨⟨own, document⟩, member, same⟩
    obtain ⟨rfl, rfl⟩ := Prod.mk.inj same
    exact ⟨document, Std.ExtTreeMap.mem_toList_iff_getElem?_eq_some.mp member, rfl⟩
  · rintro ⟨document, found, rfl⟩
    exact ⟨(name, document), Std.ExtTreeMap.mem_toList_iff_getElem?_eq_some.mpr found, rfl⟩

theorem pairwise_titledAll (documents : Named) :
    (titledAll documents).Pairwise fun a b => bytes a.1 < bytes b.1 := by
  rw [titledAll, List.pairwise_map]
  refine Std.ExtTreeMap.ordered_keys_toList.imp fun less => ?_
  exact Letters.bytes_lt_bytes.mpr (compare_lt_iff_lt.mp less)

/-- The documents have names that are told apart by whatever tells names apart. -/
theorem nodup_titledAll (documents : Named) {f : String → String}
    (injective : Function.Injective f) :
    ((titledAll documents).map fun doc => f doc.1).Nodup := by
  rw [List.Nodup, List.pairwise_map]
  refine (pairwise_titledAll documents).imp fun less => injective.ne fun same => ?_
  rw [same] at less
  exact lt_irrefl _ less

theorem append_markdown_injective : Function.Injective (· ++ ".md" : String → String) := by
  intro a b same
  simpa using same

/-- Texts with a line feed after each are the texts with a line feed between each two, and one at
the end. -/
theorem join_map_feed {texts : List String} (some : texts ≠ []) :
    String.join (texts.map (· ++ "\n")) = "\n".intercalate texts ++ "\n" := by
  induction texts with
  | nil => exact absurd rfl some
  | cons text texts ih =>
    cases texts with
    | nil => simp
    | cons next texts =>
      rw [List.map_cons, String.join_cons, ih (by simp)]
      simp [String.append_assoc]

namespace Batch

variable {batch : Batch} {tree after : FileTree} {documents : Named} {delivered : Delivered}
  {name path : String}

/-- A batch that is not told two places is to deliver the documents it has converted. -/
theorem exists_plan (batch : Batch) (one : batch.outputDirectory = none ∨ batch.outputFile = none)
    (converted : batch.documents tree = .ok documents) :
    ∃ warnings, batch.plan tree = .ok (warnings, batch.delivery documents) := by
  have checked : batch.checkOutputs = .ok () := by
    rw [checkOutputs]
    rcases one with none | none <;> simp [none]
  rw [Batch.documents] at converted
  cases scanned : batch.scanTree tree with
  | error e =>
    rw [scanned] at converted
    cases converted
  | ok scan =>
    rw [scanned] at converted
    obtain rfl := Except.ok.inj converted
    refine ⟨scan.warnings, ?_⟩
    rw [plan, checked, scanned]
    rfl

theorem run_eq_carryOut (batch : Batch)
    (one : batch.outputDirectory = none ∨ batch.outputFile = none)
    (converted : batch.documents tree = .ok documents) :
    batch.run tree = (batch.delivery documents).carryOut tree := by
  obtain ⟨warnings, planned⟩ := exists_plan batch one converted
  rw [run, planned]

/-- A batch leaves a tree well-named, whether it fails or not. -/
theorem isWellNamed_run (batch : Batch) (named : tree.IsWellNamed) :
    (batch.run tree).2.IsWellNamed := by
  rw [run]
  split
  · exact Delivery.isWellNamed_write _ named
  · exact named

/-- The name of a document holds no slash. -/
theorem slash_not_mem_of_mem_documents (named : tree.IsWellNamed)
    (converted : batch.documents tree = .ok documents) (member : name ∈ documents) :
    '/' ∉ name.toList := by
  obtain ⟨filters, files, d, -, listed, -, rfl⟩ := exists_of_documents converted
  obtain ⟨location, readable⟩ := FileTree.exists_locate_of_sourceFiles listed
  obtain ⟨files', listed', -, among⟩ := FileTree.exists_sourceFiles readable
  obtain rfl := Except.ok.inj (listed.symm.trans listed')
  rw [Std.ExtTreeMap.mem_map, Filters.mem_sources] at member
  obtain ⟨file, member, -, rfl⟩ := member
  have part := named _ _ ((among file).mp member).1 file.name (by simp)
  rw [SourceFile.stem, String.toList_ofList]
  exact fun slash => part.2 ((List.takeWhile_prefix _).subset slash)

theorem isPart_markdown (noSlash : '/' ∉ name.toList) : Path.IsPart (name ++ ".md") := by
  refine ⟨fun empty => ?_, ?_⟩
  · have := congrArg String.length empty
    simp at this
  · simp [noSlash]

theorem titledAll_ne_nil (filled : documents ≠ ∅) : titledAll documents ≠ [] := by
  intro none
  rw [titledAll, List.map_eq_nil_iff, Std.ExtTreeMap.toList_eq_nil_iff] at none
  exact filled none

/-- On a stream each document comes with a line feed after it. -/
theorem delivery_stream (noDirectory : batch.outputDirectory = none)
    (noFile : batch.outputFile = none) (documents : Named) :
    batch.delivery documents =
      .stream (String.join ((titledAll documents).map (·.2 ++ "\n"))) := by
  rw [delivery, noDirectory, noFile]
  rfl

theorem run_stream (batch : Batch) (noDirectory : batch.outputDirectory = none)
    (noFile : batch.outputFile = none) (converted : batch.documents tree = .ok documents) :
    batch.run tree =
      (.ok ⟨[], String.join ((titledAll documents).map (·.2 ++ "\n"))⟩, tree) := by
  rw [run_eq_carryOut batch (.inl noDirectory) converted, delivery_stream noDirectory noFile]
  rfl

/-- In a file the documents come with a line feed between each two, if there are any. -/
theorem delivery_file (one : batch.outputFile = some path) (filled : documents ≠ ∅) :
    batch.delivery documents =
      .file path ("\n".intercalate ((titledAll documents).map (·.2))) := by
  rw [delivery, one]
  exact if_neg (mt List.isEmpty_iff.mp (titledAll_ne_nil filled))

/-- A file holds the documents with a line feed between each two, and no other place is changed. -/
theorem run_file (batch : Batch) (noDirectory : batch.outputDirectory = none)
    (one : batch.outputFile = some path) (converted : batch.documents tree = .ok documents)
    (filled : documents ≠ ∅) (done : batch.run tree = (.ok delivered, after)) :
    delivered = ⟨[path], ""⟩ ∧ ∃ location,
      after.locate path =
        .ok (.file location ("\n".intercalate ((titledAll documents).map (·.2))).toUTF8) ∧
      ∀ other, other ≠ location → after.node? other = tree.node? other := by
  rw [run_eq_carryOut batch (.inl noDirectory) converted, delivery_file one filled] at done
  obtain ⟨written, rfl⟩ := Delivery.write_of_carryOut done
  exact ⟨rfl, Delivery.exists_of_write_file written⟩

/-- The file of a document in a directory: its path there and what it holds. -/
def fileIn (path : String) (doc : String × String) : String × String :=
  (Path.join path (doc.1 ++ ".md"), doc.2)

theorem delivery_directory (several : batch.outputDirectory = some path)
    (noFile : batch.outputFile = none) (documents : Named) :
    batch.delivery documents = .directory path ((titledAll documents).map (fileIn path)) := by
  rw [delivery, several, noFile]
  simp only [titledAll, List.map_map]
  rfl

/-- Some documents are in a directory, each in a file of its own, and no other place is changed but
for the directories made on the way to it. -/
def Wrote (path : String) (docs : List (String × String)) (before after : FileTree) : Prop :=
  ∃ base, after.LeadsTo path base ∧
    (∀ name text, (name, text) ∈ docs →
      after.locate (Path.join path (name ++ ".md")) =
        .ok (.file (base ++ [name ++ ".md"]) text.toUTF8)) ∧
    ∀ location, (∀ doc ∈ docs, location ≠ base ++ [doc.1 ++ ".md"]) →
      FileTree.SameOrMade (FileTree.waysTo path) before after location

/-- A directory to which some of the documents of a batch are delivered holds these. -/
theorem wrote_of_write (named : tree.IsWellNamed)
    (converted : batch.documents tree = .ok documents) {docs : List (String × String)}
    (among : docs.Sublist (titledAll documents))
    (written : (Delivery.directory path (docs.map (fileIn path))).write tree = (.ok (), after)) :
    Wrote path docs tree after := by
  -- Names in the directory, with what is written under them.
  let files := docs.map fun doc => (doc.1 ++ ".md", doc.2)
  have inside : docs.map (fileIn path) =
      files.map fun (name, text) => (Path.join path name, text) := by
    rw [List.map_map]
    rfl
  have parts : ∀ file ∈ files, Path.IsPart file.1 := by
    intro file member
    obtain ⟨doc, chosen, rfl⟩ := List.mem_map.mp member
    obtain ⟨document, found, -⟩ := mem_titledAll.mp (among.subset chosen)
    exact isPart_markdown (slash_not_mem_of_mem_documents named converted
      (Std.ExtTreeMap.mem_iff_isSome_getElem?.mpr (by simp [found])))
  have names : files.map (·.1) = docs.map fun doc => doc.1 ++ ".md" := List.map_map ..
  have distinct : (files.map (·.1)).Nodup :=
    names ▸ (nodup_titledAll documents append_markdown_injective).sublist (among.map _)
  rw [inside] at written
  obtain ⟨base, leads, holds, same⟩ := Delivery.exists_of_write_directory parts distinct written
  refine ⟨base, leads, fun name text member => ?_, fun location apart => ?_⟩
  · exact holds _ _ (List.mem_map.mpr ⟨(name, text), member, rfl⟩)
  · refine same location ?_
    rw [names]
    exact List.forall_mem_map.mpr apart

/-- A directory holds each document in a file of its own, and no other place is changed but for the
directories made on the way to it. -/
theorem run_directory (batch : Batch) (several : batch.outputDirectory = some path)
    (noFile : batch.outputFile = none) (named : tree.IsWellNamed)
    (converted : batch.documents tree = .ok documents)
    (done : batch.run tree = (.ok delivered, after)) :
    delivered = ⟨(titledAll documents).map fun doc => Path.join path (doc.1 ++ ".md"), ""⟩ ∧
      Wrote path (titledAll documents) tree after := by
  rw [run_eq_carryOut batch (.inr noFile) converted, delivery_directory several noFile] at done
  obtain ⟨written, rfl⟩ := Delivery.write_of_carryOut done
  refine ⟨?_, wrote_of_write named converted (List.Sublist.refl _) written⟩
  rw [Delivery.outcome, List.map_map]
  rfl

end Batch

/-- A file with a name that starts with a dot, beside two of one name. -/
def FileTree.hiddenSource : FileTree :=
  twoSources.put ["src", ".rc"] (.file "/** C. */ int c;".toUTF8)

theorem FileTree.isWellNamed_hiddenSource : hiddenSource.IsWellNamed :=
  ((((isWellNamed_empty.put (by decide)).put (by decide)).put (by decide)).put (by decide)).put
    (by decide)

namespace Batch

open FileTree (hiddenSource isWellNamed_hiddenSource)

theorem exists_documents_hidden :
    ∃ documents first second,
      ({ directory := "src" } : Batch).documents hiddenSource = .ok documents ∧
      convert "javadoc" "/** C. */ int c;" 2 = .ok first ∧
      convert "javadoc" "/** B. */ int b;" 2 = .ok second ∧
      documents.toList = [("", first), ("A", second)] := by
  have listed : hiddenSource.sourceFiles "src" = .ok [⟨".rc", "/** C. */ int c;".toUTF8⟩,
    ⟨"A.java", "/** A. */ int a;".toUTF8⟩, ⟨"A.js", "/** B. */ int b;".toUTF8⟩,
    ⟨"A.png", ⟨#[0xFF]⟩⟩] := rfl
  refine ⟨_, _, _, documents_eq_ok rfl listed (scan_eq_ok rfl), rfl, rfl, ?_⟩
  rw [Std.ExtTreeMap.toList_map, Filters.sources, Filters.named,
    List.mergeSort_of_pairwise (by decide)]
  rfl

end Batch

end DocMarkdown
