import DocMarkdown.Proofs.Source.Grammar
import Mathlib.Data.List.Chain

/-!
# Scanning a source text by byte offsets

The blocks of a source text can be found without taking the text apart: a scan keeps byte offsets
into it, looks for the marks behind an offset, and cuts out what stands between two offsets. A text
can only be cut between offsets that are in order and lie between its characters, so any other
offset would make the scan fail. This file states such a scan, and that it never fails: what its
offsets are follows from what stands at the cursor, and each pass that finds a block leaves the
cursor at least the five bytes of the two marks further on.

## Main definitions

* `Source.slice?` — the text between two byte offsets, where the source text can be cut there
* `Source.Offsets` — where a block stands, in bytes
* `Source.Pass`, `Source.pass?` — one pass of the scan, and what it comes to
* `Source.scan` — the passes from a cursor on, and the declarations that they find documented
* `Source.IsRest` — what stands behind an offset

## Main results

* `slice?_of_isRest` — cutting out what is known to stand behind an offset
* `pass?_of_next?`, `exists_pass?_of_tail` — what a pass comes to, with and without a block
* `isSafe_ofBlock` — the offsets of a block are in order, and between characters
* `exists_scan` — a scan from an offset at which the text can be cut
* `scan_safe` — a scan of a whole source text
-/

namespace DocMarkdown.Source

variable {code : String} {cursor offset : Nat} {part rest : Text} {b : Block}

/-! ### Cutting a source text -/

/-- The number of bytes of a text. -/
def byteSize (t : Text) : Nat := (String.ofList t).utf8ByteSize

/-- A byte offset at which a source text can be cut: no character has bytes on its two sides, and it
is not behind the end. -/
abbrev IsBoundary (code : String) (offset : Nat) : Prop := String.Pos.Raw.IsValid code ⟨offset⟩

/-- The text between two byte offsets; none unless the source text can be cut at both, and they are
in order. -/
def slice? (code : String) (start stop : Nat) : Option Text :=
  if h : IsBoundary code start ∧ IsBoundary code stop ∧ start ≤ stop then
    some (code.extract (code.pos ⟨start⟩ h.1) (code.pos ⟨stop⟩ h.2.1)).toList
  else none

-- The second character takes two bytes, and no cut goes through it.
example : slice? "aé/" 1 3 = some ['é'] := by decide

example : slice? "aé/" 1 2 = none := by decide

/-- The bytes before the first place where a mark stands. -/
def find? (mark t : Text) : Option Nat := (Text.cut mark t).map fun (before, _) => byteSize before

/-- The bytes before the first character of a kind. -/
def findAny? (p : Char → Bool) (t : Text) : Option Nat :=
  if t.any p then some (byteSize (t.takeWhile (!p ·))) else none

/-! ### The scan -/

/-- Where a block stands, in bytes, and where the pass that found it began. -/
structure Offsets where
  cursor : Nat
  bodyStart : Nat
  bodyEnd : Nat
  fragmentStart : Nat
  fragmentEnd : Nat
deriving DecidableEq, Repr

/-- What a pass of the scan comes to: no comment opens behind the cursor, the one that opens is not
closed, or there is a block. -/
inductive Pass
  | done (cursor : Nat)
  | unclosed (cursor bodyStart : Nat)
  | block (offsets : Offsets)
deriving DecidableEq, Repr

/-- One pass of the scan; none if the source text cannot be cut where the pass cuts it. -/
def pass? (code : String) (cursor : Nat) : Option Pass := do
  let ahead ← slice? code cursor code.utf8ByteSize
  match find? Block.opening ahead with
  | none => some (.done cursor)
  | some opened =>
    let bodyStart := cursor + opened + byteSize Block.opening
    let ahead ← slice? code bodyStart code.utf8ByteSize
    match find? Block.closing ahead with
    | none => some (.unclosed cursor bodyStart)
    | some closed =>
      let bodyEnd := bodyStart + closed
      let fragmentStart := bodyEnd + byteSize Block.closing
      let ahead ← slice? code fragmentStart code.utf8ByteSize
      let fragmentEnd :=
        (findAny? Block.endsFragment ahead).elim code.utf8ByteSize (fragmentStart + ·)
      some (.block ⟨cursor, bodyStart, bodyEnd, fragmentStart, fragmentEnd⟩)

/-- What the block at some offsets documents, if it is no import statement; none if the source text
cannot be cut at them. The body is cut out only where it is needed. -/
def documented? (code : String) (o : Offsets) : Option (Option Documented) := do
  let fragment ← slice? code o.fragmentStart o.fragmentEnd
  if isImport (Text.trim fragment) then some none
  else
    let body ← slice? code o.bodyStart o.bodyEnd
    some (some ⟨Text.trim fragment, markParagraphs body⟩)

/-! ### What stands behind an offset -/

theorem byteSize_opening : byteSize Block.opening = 3 := rfl

/-- What stands behind a byte offset of a source text, up to the end. -/
def IsRest (code : String) (offset : Nat) (rest : Text) : Prop :=
  ∃ front : String, code = front ++ String.ofList rest ∧ offset = front.utf8ByteSize

namespace IsRest

theorem zero (code : String) : IsRest code 0 code.toList :=
  ⟨"", by simp, rfl⟩

/-- Some way on, the rest is shorter by that. -/
theorem advance (h : IsRest code offset (part ++ rest)) :
    IsRest code (offset + byteSize part) rest := by
  obtain ⟨front, whole, rfl⟩ := h
  refine ⟨front ++ String.ofList part, ?_, ?_⟩
  · rw [whole, String.ofList_append, String.append_assoc]
  · rw [String.utf8ByteSize_append, byteSize]

theorem isBoundary (h : IsRest code offset rest) : IsBoundary code offset := by
  obtain ⟨front, whole, rfl⟩ := h
  exact String.Pos.Raw.isValid_iff_exists_append.mpr ⟨front, String.ofList rest, whole, rfl⟩

theorem add_byteSize_eq (h : IsRest code offset rest) :
    offset + byteSize rest = code.utf8ByteSize := by
  obtain ⟨front, rfl, rfl⟩ := h
  rw [String.utf8ByteSize_append, byteSize]

end IsRest

/-- Behind every offset at which a source text can be cut there is a rest. -/
theorem exists_isRest (h : IsBoundary code offset) : ∃ rest, IsRest code offset rest := by
  obtain ⟨front, back, whole, same⟩ := String.Pos.Raw.isValid_iff_exists_append.mp h
  refine ⟨back.toList, front, by rw [whole, String.ofList_toList], ?_⟩
  exact congrArg String.Pos.Raw.byteIdx same

/-- The bytes in the middle are cut out by the number of those before them and their own. -/
theorem extract_append_append (a b c : ByteArray) :
    (a ++ (b ++ c)).extract a.size (a.size + b.size) = b := by
  calc (a ++ (b ++ c)).extract a.size (a.size + b.size)
      = (b ++ c).extract 0 b.size := ByteArray.extract_append_size_add (i := 0)
    _ = b := ByteArray.extract_append_eq_left rfl

/-- Cutting out what stands right behind an offset. -/
theorem slice?_of_isRest (here : IsRest code offset (part ++ rest)) :
    slice? code offset (offset + byteSize part) = some part := by
  rw [slice?, dif_pos ⟨here.isBoundary, here.advance.isBoundary, Nat.le_add_right _ _⟩]
  obtain ⟨front, rfl, rfl⟩ := here
  rw [Option.some_inj, ← String.ofList_inj, String.ofList_toList, ← String.toByteArray_inj,
    String.toByteArray_extract, String.offset_pos, String.offset_pos, String.toByteArray_append,
    String.ofList_append, String.toByteArray_append]
  exact extract_append_append _ _ _

/-- Cutting out everything behind an offset. -/
theorem slice?_utf8ByteSize (here : IsRest code offset rest) :
    slice? code offset code.utf8ByteSize = some rest := by
  have whole : IsRest code offset (rest ++ []) := by rwa [List.append_nil]
  rw [← here.add_byteSize_eq]
  exact slice?_of_isRest whole

/-! ### The offsets of a block -/

/-- The offsets of a block that is found from a cursor on. -/
def Offsets.ofBlock (cursor : Nat) (b : Block) : Offsets :=
  let bodyStart := cursor + byteSize b.gap + byteSize Block.opening
  let fragmentStart := bodyStart + byteSize b.body + byteSize Block.closing
  ⟨cursor, bodyStart, bodyStart + byteSize b.body, fragmentStart,
    fragmentStart + byteSize b.fragment⟩

/-- The offsets of a block lie where its parts begin and end. -/
structure Offsets.Locate (code : String) (o : Offsets) (b : Block) (behind : Text) : Prop where
  cursor : IsRest code o.cursor (b.text ++ behind)
  bodyStart : IsRest code o.bodyStart (b.body ++ (Block.closing ++ (b.fragment ++ behind)))
  bodyEnd : IsRest code o.bodyEnd (Block.closing ++ (b.fragment ++ behind))
  fragmentStart : IsRest code o.fragmentStart (b.fragment ++ behind)
  fragmentEnd : IsRest code o.fragmentEnd behind

/-- The offsets of a pass are in order and far enough apart, and the source text can be cut at each
of them. -/
def Pass.IsSafe (code : String) : Pass → Prop
  | done cursor => IsBoundary code cursor
  | unclosed cursor bodyStart =>
    cursor + 3 ≤ bodyStart ∧ IsBoundary code cursor ∧ IsBoundary code bodyStart
  | block o =>
    o.cursor + 3 ≤ o.bodyStart ∧ o.bodyStart ≤ o.bodyEnd ∧ o.bodyEnd + 2 = o.fragmentStart ∧
      o.fragmentStart ≤ o.fragmentEnd ∧ o.fragmentEnd ≤ code.utf8ByteSize ∧
      IsBoundary code o.cursor ∧ IsBoundary code o.bodyStart ∧ IsBoundary code o.bodyEnd ∧
      IsBoundary code o.fragmentStart ∧ IsBoundary code o.fragmentEnd

/-- Where a pass begins. -/
def Pass.start : Pass → Nat
  | done cursor => cursor
  | unclosed cursor _ => cursor
  | block o => o.cursor

variable {behind : Text}

theorem locate_ofBlock (here : IsRest code cursor (b.text ++ behind)) :
    (Offsets.ofBlock cursor b).Locate code b behind := by
  have parts : b.text ++ behind =
      b.gap ++ (Block.opening ++ (b.body ++ (Block.closing ++ (b.fragment ++ behind)))) := by
    simp [Block.text]
  -- Each part of the block that is gone past leads to the next offset.
  have opened := (parts ▸ here).advance.advance
  exact ⟨here, opened, opened.advance, opened.advance.advance, opened.advance.advance.advance⟩

/-- The offsets of a block are in order, and the source text can be cut at each. -/
theorem isSafe_ofBlock (here : IsRest code cursor (b.text ++ behind)) :
    (Pass.block (.ofBlock cursor b)).IsSafe code := by
  obtain ⟨start, bodyStart, bodyEnd, fragmentStart, fragmentEnd⟩ := locate_ofBlock here
  refine ⟨?_, Nat.le_add_right _ _, rfl, Nat.le_add_right _ _, ?_, start.isBoundary,
    bodyStart.isBoundary, bodyEnd.isBoundary, fragmentStart.isBoundary, fragmentEnd.isBoundary⟩
  · dsimp only [Offsets.ofBlock]
    rw [byteSize_opening]
    omega
  · exact (Nat.le_add_right _ _).trans_eq fragmentEnd.add_byteSize_eq

/-- What is cut out at the offsets of a block documents what the block does. -/
theorem documented?_ofBlock (here : IsRest code cursor (b.text ++ behind)) :
    documented? code (.ofBlock cursor b) = some (Documented.ofBlock? b) := by
  obtain ⟨-, bodyStart, -, fragmentStart, -⟩ := locate_ofBlock here
  have body : slice? code (Offsets.ofBlock cursor b).bodyStart (Offsets.ofBlock cursor b).bodyEnd =
      some b.body := slice?_of_isRest bodyStart
  have fragment : slice? code (Offsets.ofBlock cursor b).fragmentStart
      (Offsets.ofBlock cursor b).fragmentEnd = some b.fragment := slice?_of_isRest fragmentStart
  simp only [documented?, fragment, body, Option.bind_eq_bind, Option.bind_some,
    Documented.ofBlock?]
  split <;> rfl

/-! ### One pass -/

/-- A fragment ends at the first character that ends it, or with the source text. -/
theorem fragmentEnd_eq (p : Char → Bool) (here : IsRest code offset rest) :
    (findAny? p rest).elim code.utf8ByteSize (offset + ·) =
      offset + byteSize (rest.takeWhile (!p ·)) := by
  rw [findAny?]
  split
  · rfl
  · next none =>
    have whole : rest.takeWhile (!p ·) = rest := by
      refine List.takeWhile_eq_self_iff.mpr fun c hc => ?_
      simpa using fun found => none (List.any_eq_true.mpr ⟨c, hc, found⟩)
    rw [whole]
    exact here.add_byteSize_eq.symm

/-- A pass finds the first block behind the cursor. -/
theorem pass?_of_next? (here : IsRest code cursor rest)
    (next : Block.next? rest = some (b, behind)) :
    pass? code cursor = some (.block (.ofBlock cursor b)) := by
  -- The parts of a block are delimited, so each search stops at the end of the part it begins in.
  obtain ⟨delimited, follows, rfl⟩ := Block.next?_eq_some_iff.mp next
  obtain ⟨-, bodyStart, -, fragmentStart, -⟩ := locate_ofBlock here
  have opens : Text.cut Block.opening (b.text ++ behind) =
      some (b.gap, b.body ++ (Block.closing ++ (b.fragment ++ behind))) :=
    Block.cut_opening_eq_some_iff.mpr ⟨by simp [Block.text], delimited.gap⟩
  have closes : Text.cut Block.closing (b.body ++ (Block.closing ++ (b.fragment ++ behind))) =
      some (b.body, b.fragment ++ behind) :=
    Block.cut_closing_eq_some_iff.mpr ⟨by simp, delimited.body⟩
  have ends := fragmentEnd_eq Block.endsFragment fragmentStart
  rw [(Block.takeWhile_fragment delimited.fragment follows).1] at ends
  have ahead := slice?_utf8ByteSize bodyStart
  have behindBody := slice?_utf8ByteSize fragmentStart
  dsimp only [Offsets.ofBlock] at ahead behindBody ends
  simp only [pass?, slice?_utf8ByteSize here, find?, opens, closes, ahead, behindBody, ends,
    Option.bind_eq_bind, Option.bind_some, Option.map_some, Offsets.ofBlock]

/-- A pass without a block is safe too, and the last one. -/
theorem exists_pass?_of_tail (here : IsRest code cursor rest) (tail : Block.next? rest = none) :
    ∃ pass, pass? code cursor = some pass ∧ (∀ o, pass ≠ .block o) ∧ pass.start = cursor ∧
      pass.IsSafe code := by
  cases opens : Text.cut Block.opening rest with
  | none =>
    refine ⟨.done cursor, ?_, nofun, rfl, here.isBoundary⟩
    simp only [pass?, slice?_utf8ByteSize here, find?, opens, Option.bind_eq_bind,
      Option.bind_some, Option.map_none]
  | some parts =>
    obtain ⟨gap, opened⟩ := parts
    obtain ⟨whole, -⟩ := Block.cut_opening_eq_some_iff.mp opens
    rw [Block.next?_of_some opens, Option.map_eq_none_iff] at tail
    rw [List.append_assoc] at whole
    have bodyStart := (whole ▸ here).advance.advance
    refine ⟨.unclosed cursor (cursor + byteSize gap + byteSize Block.opening), ?_, nofun, rfl, ?_,
      here.isBoundary, bodyStart.isBoundary⟩
    · simp only [pass?, slice?_utf8ByteSize here, find?, opens, slice?_utf8ByteSize bodyStart, tail,
        Option.bind_eq_bind, Option.bind_some, Option.map_some, Option.map_none]
    · rw [byteSize_opening]
      omega

/-- A pass begins where the source text can be cut. -/
theorem isBoundary_of_pass? {pass : Pass} (h : pass? code cursor = some pass) :
    IsBoundary code cursor := by
  rw [pass?, Option.bind_eq_bind, Option.bind_eq_some_iff] at h
  obtain ⟨ahead, cutOut, -⟩ := h
  rw [slice?] at cutOut
  split at cutOut
  · next cuts => exact cuts.1
  · cases cutOut

/-- The cursor gets nearer to the end with each block. -/
theorem lt_of_pass? {o : Offsets} (h : pass? code cursor = some (.block o)) :
    code.utf8ByteSize - o.fragmentEnd < code.utf8ByteSize - cursor := by
  obtain ⟨rest, here⟩ := exists_isRest (isBoundary_of_pass? h)
  cases next : Block.next? rest with
  | none =>
    obtain ⟨pass, same, last, -⟩ := exists_pass?_of_tail here next
    rw [same, Option.some_inj] at h
    exact absurd h (last o)
  | some found =>
    obtain ⟨b, behind⟩ := found
    rw [pass?_of_next? here next, Option.some_inj, Pass.block.injEq] at h
    obtain rfl := h
    obtain ⟨begins, body, closes, fragment, fits, -⟩ :=
      isSafe_ofBlock (Block.eq_of_next? next ▸ here)
    have start : (Offsets.ofBlock cursor b).cursor = cursor := rfl
    omega

/-! ### The whole scan -/

/-- The passes from a cursor on, and what they find documented; none if some cut fails. -/
def scan (code : String) (cursor : Nat) : Option (List Pass × List Documented) :=
  match _pass : pass? code cursor with
  | none => none
  | some (.block o) =>
    (documented? code o).bind fun documented =>
      (scan code o.fragmentEnd).map fun (passes, others) =>
        (.block o :: passes, documented.toList ++ others)
  | some pass => some ([pass], [])
termination_by code.utf8ByteSize - cursor
decreasing_by exact lt_of_pass? _pass

theorem scan_of_block {o : Offsets} (h : pass? code cursor = some (.block o)) :
    scan code cursor = (documented? code o).bind fun documented =>
      (scan code o.fragmentEnd).map fun (passes, others) =>
        (.block o :: passes, documented.toList ++ others) := by
  rw [scan]
  split
  · next none => simp [none] at h
  · next same =>
    rw [h, Option.some_inj, Pass.block.injEq] at same
    rw [same]
  · next other same =>
    rw [h, Option.some_inj] at same
    exact absurd same.symm (other o)

theorem scan_of_last {pass : Pass} (h : pass? code cursor = some pass)
    (last : ∀ o, pass ≠ .block o) : scan code cursor = some ([pass], []) := by
  rw [scan]
  split
  · next none => simp [none] at h
  · next o same =>
    rw [h, Option.some_inj] at same
    exact absurd same (last o)
  · next same =>
    rw [h, Option.some_inj] at same
    rw [same]

/-- A scan from a cursor on in which nothing goes wrong. -/
structure IsScan (code : String) (cursor : Nat) (passes : List Pass)
    (documented : List Documented) : Prop where
  /-- The first pass begins at the cursor. -/
  start : passes.head?.map Pass.start = some cursor
  /-- The offsets of all passes are in order, and the source text can be cut at them. -/
  safe : ∀ pass ∈ passes, pass.IsSafe code
  /-- Each pass begins at least five bytes behind the one before it. -/
  advances : passes.IsChain fun pass next => pass.start + 5 ≤ next.start
  /-- So five bytes are there for each declaration that is documented. -/
  fits : cursor + 5 * documented.length ≤ code.utf8ByteSize

/-- A pass that finds a block goes before a scan from the end of its fragment on. -/
theorem IsScan.cons {passes : List Pass} {documented : List Documented}
    (here : IsRest code cursor (b.text ++ behind))
    (others : IsScan code (Offsets.ofBlock cursor b).fragmentEnd passes documented) :
    IsScan code cursor (.block (.ofBlock cursor b) :: passes)
      ((Documented.ofBlock? b).toList ++ documented) := by
  have safe := isSafe_ofBlock here
  have further : cursor + 5 ≤ (Offsets.ofBlock cursor b).fragmentEnd := by
    obtain ⟨begins, body, closes, fragment, -⟩ := safe
    have start : (Offsets.ofBlock cursor b).cursor = cursor := rfl
    omega
  have one : (Documented.ofBlock? b).toList.length ≤ 1 := by
    cases Documented.ofBlock? b <;> simp
  refine ⟨rfl, List.forall_mem_cons.mpr ⟨safe, others.safe⟩, ?_, ?_⟩
  · refine List.isChain_cons.mpr ⟨fun next first => ?_, others.advances⟩
    have begins := others.start
    rw [Option.mem_def.mp first, Option.map_some, Option.some_inj] at begins
    exact further.trans_eq begins.symm
  · have fits := others.fits
    rw [List.length_append]
    omega

/-- A scan does not fail from an offset at which the source text can be cut. -/
theorem exists_scan {cursor : Nat} {rest : Text} (here : IsRest code cursor rest) :
    ∃ passes, scan code cursor = some (passes, documentedIn rest) ∧
      IsScan code cursor passes (documentedIn rest) := by
  -- Block by block; the last pass is the one at the tail.
  cases next : Block.next? rest with
  | none =>
    obtain ⟨pass, same, last, start, safe⟩ := exists_pass?_of_tail here next
    have fits : cursor ≤ code.utf8ByteSize := here.add_byteSize_eq ▸ Nat.le_add_right _ _
    rw [documentedIn_eq, next]
    exact ⟨[pass], scan_of_last same last, congrArg some start, by simpa using safe,
      List.isChain_singleton _, fits⟩
  | some found =>
    obtain ⟨b, behind⟩ := found
    have begins : IsRest code cursor (b.text ++ behind) := Block.eq_of_next? next ▸ here
    obtain ⟨passes, others, isScan⟩ := exists_scan (locate_ofBlock begins).fragmentEnd
    rw [documentedIn_eq, next]
    refine ⟨.block (.ofBlock cursor b) :: passes, ?_, isScan.cons begins⟩
    rw [scan_of_block (pass?_of_next? here next), documented?_ofBlock begins, Option.bind_some,
      others]
    rfl
termination_by rest.length
decreasing_by exact Block.length_lt_of_next? next

/-- A scan of a source text by byte offsets never fails, comes to an end, and finds the documented
declarations. In every pass the offsets are in order, those of the two marks three and two bytes
apart, none is behind the end of the text, and the text can be cut at each of them. From one pass to
the next the cursor grows by at least five bytes, so there are five bytes in the text for each
documented declaration. -/
theorem scan_safe (code : String) :
    ∃ passes, scan code 0 = some (passes, documentedIn code.toList) ∧
      passes.head?.map Pass.start = some 0 ∧
      (∀ pass ∈ passes, pass.IsSafe code) ∧
      passes.IsChain (fun pass next => pass.start + 5 ≤ next.start) ∧
      5 * (documentedIn code.toList).length ≤ code.utf8ByteSize := by
  obtain ⟨passes, found, isScan⟩ := exists_scan (IsRest.zero code)
  have fits := isScan.fits
  rw [Nat.zero_add] at fits
  exact ⟨passes, found, isScan.start, isScan.safe, isScan.advances, fits⟩

end DocMarkdown.Source
