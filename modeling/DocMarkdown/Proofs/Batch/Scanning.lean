import DocMarkdown.Proofs.FileTree.Listing
import DocMarkdown.Proofs.Letters.ByteOrder
import Mathlib.Data.List.Induction

/-!
# The documents of a directory

The documents of a directory are those of the files that the filters accept. Of several such files
with the same name up to the first dot, the one with the greatest name counts. It does not matter in
which order the files are listed, nor which other files there are.

## Main definitions

* `Filters.accepts` — a file is accepted by its name and its contents
* `Filters.IsLast` — the file that counts for a name

## Main results

* `Filters.getElem?_collect` — what files in the order of their names leave under a name
* `Filters.sources_congr` — the sources depend on the accepted files only
* `documents_of_directory` — the documents of a directory
-/

namespace DocMarkdown

open Letters (bytes)

namespace Filters

variable {filters : Filters} {files listing sorted : List SourceFile} {file other : SourceFile}
  {key contents : String}

/-- A file is accepted by its name, and by its contents, which have to be text. -/
def accepts (filters : Filters) (file : SourceFile) : Bool :=
  filters.acceptsName file.name && file.text?.any filters.acceptsContents

/-- The file that counts for a name: of the accepted files that have it up to their first dot, the
one with the greatest name by the order of bytes. -/
structure IsLast (filters : Filters) (files : List SourceFile) (key : String) (file : SourceFile) :
    Prop where
  member : file ∈ files
  accepted : filters.accepts file = true
  stem_eq : file.stem = key
  greatest : ∀ other ∈ files, filters.accepts other = true → other.stem = key →
    bytes other.name ≤ bytes file.name

/-! ### What one file gives -/

/-- An accepted file gives its contents, under its name up to the first dot. -/
theorem exists_source?_of_accepts (accepted : filters.accepts file = true) :
    ∃ contents, file.text? = some contents ∧ filters.source? file = some (file.stem, contents) := by
  simp only [accepts, Bool.and_eq_true, Option.any_eq_true] at accepted
  obtain ⟨-, contents, text, passed⟩ := accepted
  refine ⟨contents, text, ?_⟩
  simp only [source?, text, Option.bind_eq_bind, Option.bind_some, passed, if_true]

/-- A file that is not accepted, though its name is, gives nothing. -/
theorem source?_of_not_accepts (named : filters.acceptsName file.name = true)
    (rejected : filters.accepts file = false) : filters.source? file = none := by
  simp only [accepts, named, Bool.true_and] at rejected
  cases text : file.text? with
  | none => simp only [source?, text, Option.bind_eq_bind, Option.bind_none]
  | some contents =>
    have failed : filters.acceptsContents contents = false := by simpa [text] using rejected
    simp [source?, text, failed]

/-! ### Files in the order of their names -/

/-- What files leave, each in the place of the one of the same name before it. -/
def collect (filters : Filters) (sorted : List SourceFile) : Named :=
  (sorted.filterMap filters.source?).foldl
    (fun sources (name, contents) => sources.insert name contents) ∅

/-- One more file at the end. -/
theorem collect_append_singleton (text : file.text? = some contents)
    (accepted : filters.accepts file = true) :
    filters.collect (sorted ++ [file]) = (filters.collect sorted).insert file.stem contents := by
  obtain ⟨own, text', source⟩ := exists_source?_of_accepts accepted
  obtain rfl : contents = own := Option.some.inj (text.symm.trans text')
  rw [collect, List.filterMap_append, List.foldl_append, List.filterMap_cons, source]
  rfl

theorem getElem?_insert (sources : Named) (name key contents : String) :
    (sources.insert name contents)[key]? = if name = key then some contents else sources[key]? := by
  simp only [Std.ExtTreeMap.getElem?_insert, Std.LawfulEqCmp.compare_eq_iff_eq]

theorem IsLast.name_eq {a b : SourceFile} (ha : filters.IsLast files key a)
    (hb : filters.IsLast files key b) : a.name = b.name :=
  le_antisymm (Letters.bytes_le_bytes.mp (hb.greatest a ha.member ha.accepted ha.stem_eq))
    (Letters.bytes_le_bytes.mp (ha.greatest b hb.member hb.accepted hb.stem_eq))

/-- A file after all others is the last for its own name. -/
theorem isLast_append_self (accepted : filters.accepts file = true)
    (below : ∀ other ∈ files, other.name < file.name) :
    filters.IsLast (files ++ [file]) file.stem file where
  member := List.mem_append_right _ List.mem_cons_self
  accepted := accepted
  stem_eq := rfl
  greatest other member _ _ := by
    rw [Letters.bytes_le_bytes]
    rcases List.mem_append.mp member with before | same
    · exact (below other before).le
    · rw [List.mem_singleton.mp same]

/-- A file does not matter for another name than its own. -/
theorem isLast_append_iff (apart : file.stem ≠ key) :
    filters.IsLast (files ++ [file]) key other ↔ filters.IsLast files key other := by
  have before : ∀ {one : SourceFile}, one ∈ files ++ [file] → one.stem = key → one ∈ files := by
    intro one member stem
    rcases List.mem_append.mp member with before | same
    · exact before
    · exact absurd (List.mem_singleton.mp same ▸ stem) apart
  constructor
  · intro last
    exact ⟨before last.member last.stem_eq, last.accepted, last.stem_eq,
      fun one member => last.greatest one (List.mem_append_left _ member)⟩
  · intro last
    exact ⟨List.mem_append_left _ last.member, last.accepted, last.stem_eq,
      fun one member accepted stem => last.greatest one (before member stem) accepted stem⟩

/-- What accepted files in the order of their names leave under a name is the contents of the last
one that has it. -/
theorem getElem?_collect (ordered : sorted.Pairwise fun a b => a.name < b.name)
    (accepted : ∀ file ∈ sorted, filters.accepts file = true) :
    (filters.collect sorted)[key]? = some contents ↔
      ∃ file, filters.IsLast sorted key file ∧ file.text? = some contents := by
  -- By induction from the end: the last file is greater than all others.
  induction sorted using List.reverseRecOn with
  | nil =>
    constructor
    · intro found
      simp [collect] at found
    · rintro ⟨file, last, -⟩
      exact absurd last.member List.not_mem_nil
  | append_singleton front file ih =>
    obtain ⟨before, -, below⟩ := List.pairwise_append.mp ordered
    have below : ∀ other ∈ front, other.name < file.name := fun other member =>
      below other member file List.mem_cons_self
    have own : filters.accepts file = true := accepted file (by simp)
    have ih := ih before fun other member => accepted other (List.mem_append_left _ member)
    obtain ⟨given, text, -⟩ := exists_source?_of_accepts own
    rw [collect_append_singleton text own, getElem?_insert]
    by_cases same : file.stem = key
    · subst same
      have last := isLast_append_self own below
      rw [if_pos rfl, ← text]
      constructor
      · intro found
        exact ⟨file, last, found⟩
      · rintro ⟨other, last', text'⟩
        have distinct : ((front ++ [file]).map (·.name)).Nodup := by
          rw [List.Nodup, List.pairwise_map]
          exact ordered.imp fun less => less.ne
        obtain rfl := List.inj_on_of_nodup_map distinct last'.member last.member
          (last'.name_eq last)
        exact text'
    · rw [if_neg same, ih]
      simp only [isLast_append_iff same]

/-- There is something under a name if one of the files has it. -/
theorem mem_collect (accepted : ∀ file ∈ sorted, filters.accepts file = true) :
    key ∈ filters.collect sorted ↔ ∃ file ∈ sorted, file.stem = key := by
  induction sorted using List.reverseRecOn with
  | nil => simp [collect]
  | append_singleton front file ih =>
    have ih := ih fun other member => accepted other (List.mem_append_left _ member)
    obtain ⟨given, text, -⟩ := exists_source?_of_accepts (accepted file (by simp))
    rw [collect_append_singleton text (accepted file (by simp)), Std.ExtTreeMap.mem_insert,
      Std.LawfulEqCmp.compare_eq_iff_eq, ih]
    simp only [List.mem_append, List.mem_singleton, or_and_right, exists_or, exists_eq_left]
    exact or_comm

/-! ### Files in any order -/

theorem mem_named :
    file ∈ filters.named files ↔ file ∈ files ∧ filters.acceptsName file.name = true := by
  rw [named, (List.mergeSort_perm _ _).mem_iff, List.mem_filter]

/-- The accepted files, in the order of their names. -/
def accepted (filters : Filters) (files : List SourceFile) : List SourceFile :=
  (filters.named files).filter filters.accepts

/-- Files that are not accepted leave nothing. -/
theorem sources_eq_collect : filters.sources files = filters.collect (filters.accepted files) := by
  have same : (filters.accepted files).filterMap filters.source? =
      (filters.named files).filterMap filters.source? := by
    rw [accepted, List.filterMap_filter]
    refine List.filterMap_congr fun file member => ?_
    split
    · rfl
    · next rejected =>
      exact (source?_of_not_accepts (mem_named.mp member).2 (Bool.eq_false_iff.mpr rejected)).symm
  rw [sources, collect, same]

theorem accepted_perm : (filters.accepted files).Perm (files.filter filters.accepts) := by
  have sorted := (List.mergeSort_perm (files.filter (filters.acceptsName ·.name))
    fun a b => a.name ≤ b.name).filter filters.accepts
  have both : (files.filter (filters.acceptsName ·.name)).filter filters.accepts =
      files.filter filters.accepts := by
    rw [List.filter_filter]
    refine List.filter_congr fun file _ => ?_
    rw [accepts, Bool.and_right_comm, Bool.and_self]
  exact both ▸ sorted

theorem mem_accepted :
    file ∈ filters.accepted files ↔ file ∈ files ∧ filters.accepts file = true := by
  rw [accepted_perm.mem_iff, List.mem_filter]

/-- Accepted files with distinct names are in the strict order of their names. -/
theorem pairwise_accepted (distinct : ((files.filter filters.accepts).map (·.name)).Nodup) :
    (filters.accepted files).Pairwise fun a b => a.name < b.name := by
  have ordered : (filters.accepted files).Pairwise fun a b => a.name ≤ b.name := by
    have total : ∀ a b : SourceFile,
        (decide (a.name ≤ b.name) || decide (b.name ≤ a.name)) = true := by
      intro a b
      simpa using le_total a.name b.name
    have trans : ∀ a b c : SourceFile, decide (a.name ≤ b.name) = true →
        decide (b.name ≤ c.name) = true → decide (a.name ≤ c.name) = true := by
      intro a b c
      simpa using le_trans
    exact ((List.pairwise_mergeSort trans total _).filter _).imp fun le => of_decide_eq_true le
  have distinct : ((filters.accepted files).map (·.name)).Nodup :=
    (accepted_perm.map _).nodup_iff.mpr distinct
  have unequal : (filters.accepted files).Pairwise fun a b => a.name ≠ b.name :=
    List.pairwise_map.mp distinct
  exact (ordered.and unequal).imp fun both => lt_of_le_of_ne both.1 both.2

/-- The sources depend on the accepted files only, and not on the order in which they are
listed. -/
theorem sources_congr (distinct : ((files.filter filters.accepts).map (·.name)).Nodup)
    (same : (listing.filter filters.accepts).Perm (files.filter filters.accepts)) :
    filters.sources listing = filters.sources files := by
  have distinct' : ((listing.filter filters.accepts).map (·.name)).Nodup :=
    (same.map (·.name)).nodup_iff.mpr distinct
  have sorted : filters.accepted listing = filters.accepted files :=
    List.Perm.eq_of_pairwise (fun _ _ _ _ less more => absurd more less.asymm)
      (pairwise_accepted distinct') (pairwise_accepted distinct)
      (accepted_perm.trans (same.trans accepted_perm.symm))
  rw [sources_eq_collect, sources_eq_collect, sorted]

theorem isLast_accepted_iff :
    filters.IsLast (filters.accepted files) key file ↔ filters.IsLast files key file := by
  constructor
  · intro last
    exact ⟨(mem_accepted.mp last.member).1, last.accepted, last.stem_eq, fun other member passed =>
      last.greatest other (mem_accepted.mpr ⟨member, passed⟩) passed⟩
  · intro last
    exact ⟨mem_accepted.mpr ⟨last.member, last.accepted⟩, last.accepted, last.stem_eq,
      fun other member => last.greatest other (mem_accepted.mp member).1⟩

/-- The source under a name is the contents of the file that counts for it. -/
theorem getElem?_sources (distinct : ((files.filter filters.accepts).map (·.name)).Nodup) :
    (filters.sources files)[key]? = some contents ↔
      ∃ file, filters.IsLast files key file ∧ file.text? = some contents := by
  rw [sources_eq_collect, getElem?_collect (pairwise_accepted distinct) fun _ member =>
    (mem_accepted.mp member).2]
  simp only [isLast_accepted_iff]

/-- There is a source under a name if an accepted file has it. -/
theorem mem_sources :
    key ∈ filters.sources files ↔
      ∃ file ∈ files, filters.accepts file = true ∧ file.stem = key := by
  rw [sources_eq_collect, mem_collect fun _ member => (mem_accepted.mp member).2]
  simp only [mem_accepted, and_assoc]

end Filters

/-! ### Documents -/

/-- Two files with one name up to the first dot, and a greater one that is not text. -/
def FileTree.twoSources : FileTree :=
  (((empty.put ["src"] .directory).put
    ["src", "A.java"] (.file "/** A. */ int a;".toUTF8)).put
    ["src", "A.js"] (.file "/** B. */ int b;".toUTF8)).put ["src", "A.png"] (.file ⟨#[0xFF]⟩)

theorem FileTree.cases_twoSources {name : String} {contents : ByteArray}
    (there : twoSources.node? ["src", name] = some (.file contents)) :
    (name = "A.png" ∧ contents = ⟨#[0xFF]⟩) ∨
      (name = "A.js" ∧ contents = "/** B. */ int b;".toUTF8) ∨
      (name = "A.java" ∧ contents = "/** A. */ int a;".toUTF8) := by
  have nothing : empty.node? ["src", name] = none := by simp [empty, node?]
  simp only [twoSources, node?_put, List.cons_ne_nil, if_false, List.cons.injEq, and_true, true_and,
    nothing] at there
  grind

namespace Batch

variable {batch : Batch} {filters : Filters} {files listing : List SourceFile}

theorem filters_eq_ok_iff :
    batch.filters = .ok filters ↔ batch.nameFilter = .ok filters.acceptsName ∧
      batch.contentsFilter = .ok filters.acceptsContents := by
  obtain ⟨acceptsName, acceptsContents⟩ := filters
  cases names : batch.nameFilter with
  | error e => simp [Batch.filters, names, bind, Except.bind]
  | ok names =>
    cases contents : batch.contentsFilter with
    | error e => simp [Batch.filters, *, bind, Except.bind]
    | ok contents => simp [Batch.filters, *, bind, Except.bind]

/-- Where no pattern is given, contents are accepted if a character of theirs is visible. -/
theorem acceptsContents_iff (filtered : batch.filters = .ok filters)
    (unset : batch.contentsPattern = none) (text : String) :
    filters.acceptsContents text = true ↔ ∃ c ∈ text.toList, Text.isBlank c = false := by
  have visible : batch.contentsFilter = .ok fun contents => !Text.blank contents.toList := by
    rw [contentsFilter, unset]
  obtain ⟨-, found⟩ := filters_eq_ok_iff.mp filtered
  rw [← Except.ok.inj (visible.symm.trans found)]
  simp [Text.blank]

/-- The documents of listed files in a registered language. -/
theorem scan_eq_ok {d : Dialect} (registered : Languages.builtIn.find batch.language = .ok d) :
    batch.scan filters files = .ok ⟨filters.warnings batch.directory files,
      (filters.sources files).map fun _ code => d.convert code batch.level⟩ := by
  rw [scan, convertAll, registered]
  rfl

theorem documents_eq_ok {tree : FileTree} {scan : Scan} (filtered : batch.filters = .ok filters)
    (listed : tree.sourceFiles batch.directory = .ok files)
    (scanned : batch.scan filters files = .ok scan) :
    batch.documents tree = .ok scan.documents := by
  rw [documents, scanTree, filtered]
  simp only [bind, Except.bind, listed, scanned]
  rfl

/-- Where there are documents, they are those of the files of a directory, in a registered
language. -/
theorem exists_of_documents {tree : FileTree} {documents : Named}
    (converted : batch.documents tree = .ok documents) :
    ∃ filters files d, batch.filters = .ok filters ∧ tree.sourceFiles batch.directory = .ok files ∧
      Languages.builtIn.find batch.language = .ok d ∧
      documents = (filters.sources files).map fun _ code => d.convert code batch.level := by
  cases filtered : batch.filters with
  | error e =>
    rw [Batch.documents, scanTree, filtered] at converted
    cases converted
  | ok filters =>
    cases listed : tree.sourceFiles batch.directory with
    | error e =>
      rw [Batch.documents, scanTree, filtered] at converted
      simp only [bind, Except.bind, listed] at converted
      cases converted
    | ok files =>
      cases registered : Languages.builtIn.find batch.language with
      | error e =>
        rw [Batch.documents, scanTree, filtered] at converted
        simp only [bind, Except.bind, listed, scan, convertAll, registered] at converted
        cases converted
      | ok d =>
        rw [documents_eq_ok filtered listed (scan_eq_ok registered)] at converted
        exact ⟨filters, files, d, rfl, rfl, rfl, (Except.ok.inj converted).symm⟩

/-- The documents of a directory go by the names of the accepted files up to the first dot. The one
of a name is that of the file with this name which has the greatest name by the order of bytes.
However the files are listed, and whatever files are there that are not accepted, the documents are
the same. Where no pattern for contents is given, a file is accepted if it has a visible
character. -/
theorem documents_of_directory (batch : Batch) (filters : Filters) (tree : FileTree) {d : Dialect}
    {location : Location} (registered : Languages.builtIn.find batch.language = .ok d)
    (readable : tree.locate batch.directory = .ok (.directory location)) :
    ∃ (files : List SourceFile) (documents : Named),
      (tree.sourceFiles batch.directory = .ok files ∧ ∀ file : SourceFile, file ∈ files ↔
          tree.node? (location ++ [file.name]) = some (.file file.contents) ∧
            Path.isTooLong (Path.join batch.directory file.name) = false) ∧
        (batch.filters = .ok filters → batch.documents tree = .ok documents ∧
          (batch.contentsPattern = none → ∀ text : String, filters.acceptsContents text = true ↔
            ∃ c ∈ text.toList, Text.isBlank c = false)) ∧
        (∀ key, key ∈ documents ↔
          ∃ file ∈ files, filters.accepts file = true ∧ file.stem = key) ∧
        (∀ key document, documents[key]? = some document ↔ ∃ file contents,
          filters.IsLast files key file ∧ file.text? = some contents ∧
            convert batch.language contents batch.level = .ok document) ∧
        ∀ listing : List SourceFile,
          (listing.filter filters.accepts).Perm (files.filter filters.accepts) →
            (batch.scan filters listing).map (·.documents) = .ok documents := by
  obtain ⟨files, listed, distinct, member⟩ := FileTree.exists_sourceFiles readable
  have distinct : ((files.filter filters.accepts).map (·.name)).Nodup :=
    distinct.sublist (List.filter_sublist.map _)
  have converted : ∀ contents,
      convert batch.language contents batch.level = .ok (d.convert contents batch.level) := by
    intro contents
    rw [convert, Languages.convert, registered]
    rfl
  refine ⟨files, (filters.sources files).map fun _ code => d.convert code batch.level,
    ⟨listed, member⟩, fun filtered => ⟨documents_eq_ok filtered listed (scan_eq_ok registered),
      acceptsContents_iff filtered⟩, fun key => ?_, fun key document => ?_, fun listing same => ?_⟩
  · rw [Std.ExtTreeMap.mem_map, Filters.mem_sources]
  · rw [Std.ExtTreeMap.getElem?_map, Option.map_eq_some_iff]
    simp only [converted, Filters.getElem?_sources distinct, Except.ok.injEq]
    constructor
    · rintro ⟨contents, ⟨file, last, text⟩, shown⟩
      exact ⟨file, contents, last, text, shown⟩
    · rintro ⟨file, contents, last, text, shown⟩
      exact ⟨contents, ⟨file, last, text⟩, shown⟩
  · rw [scan_eq_ok registered, Filters.sources_congr distinct same]
    rfl

/-- Of two files with one name up to the first dot the greater counts, though there is a third that
is still greater and not text. -/
theorem documents_of_directory_shared :
    Languages.builtIn.find "JavaDoc" = .ok .plain ∧
      FileTree.twoSources.locate "src" = .ok (.directory ["src"]) ∧
      ∃ documents document,
        ({ directory := "src", language := "JavaDoc" } : Batch).documents FileTree.twoSources =
            .ok documents ∧
          documents["A"]? = some document ∧
          convert "JavaDoc" "/** B. */ int b;" 2 = .ok document := by
  have registered : Languages.builtIn.find "JavaDoc" = .ok .plain := rfl
  have readable : FileTree.twoSources.locate "src" = .ok (.directory ["src"]) := rfl
  obtain ⟨files, documents, ⟨-, member⟩, made, -, found, -⟩ :=
    documents_of_directory { directory := "src", language := "JavaDoc" }
      ⟨fun _ => true, fun contents => !Text.blank contents.toList⟩ FileTree.twoSources registered
      readable
  refine ⟨registered, readable, documents, _, (made rfl).1, (found "A" _).mpr
    ⟨⟨"A.js", "/** B. */ int b;".toUTF8⟩, _, ?_, rfl, rfl⟩, rfl⟩
  refine ⟨(member _).mpr ⟨?_, by decide⟩, by decide, by decide, ?_⟩
  · simp [FileTree.twoSources, FileTree.node?_put]
  · rintro ⟨name, contents⟩ listed accepted -
    rcases FileTree.cases_twoSources ((member _).mp listed).1 with
      ⟨rfl, rfl⟩ | ⟨rfl, rfl⟩ | ⟨rfl, rfl⟩
    · exact absurd accepted (by decide)
    · exact le_rfl
    · exact Letters.bytes_le_bytes.mpr (by decide)

end Batch

end DocMarkdown
