import DocMarkdown.Letters.CharSet

/-!
# Sets of characters as sequences of byte ranges

In UTF-8 the characters of a set are spelt by sequences of bytes. A sequence of byte ranges spells
every character with its first byte in the first range, its second in the second, and so on. A range
of characters is cut into pieces that are each spelt by one such sequence.

## Main definitions

* `cut?` — where a range of code points has to be cut
* `piecesOf` — the pieces of a range
* `CharSet.byteRanges` — the sequences of byte ranges for a set, in increasing order
-/

namespace DocMarkdown

namespace ByteRanges

/-- The greatest code points that take one, two and three bytes. -/
def lengthLimits : List Nat := [0x7F, 0x7FF, 0xFFFF]

/-- How many code points share all bytes but the last one, two and three. -/
def blockSizes : List Nat := [0x40, 0x1000, 0x40000]

/-- Where a range of code points has to be cut for blocks of a given size: before its first whole
block, or else after its last. -/
def cutBlock? (first last size : Nat) : Option (Nat × Nat) :=
  if first / size = last / size then none
  else if first % size ≠ 0 then
    let start := (first / size + 1) * size
    some (start - 1, start)
  else if last % size ≠ size - 1 then
    let start := last / size * size
    some (start - 1, start)
  else none

/-- Where a range of code points has to be cut, if it does: the end of its front and the start of
its back. The surrogates are left out, and characters spelt by different numbers of bytes are put
apart. -/
def cut? (first last : Nat) : Option (Nat × Nat) :=
  if first < 0xE000 && 0xD7FF < last then some (0xD7FF, 0xE000)
  else
    match lengthLimits.find? fun limit => first ≤ limit && limit < last with
    | some limit => some (limit, limit + 1)
    | none => if last ≤ 0x7F then none else blockSizes.findSome? (cutBlock? first last)

/-- The pieces of a range of code points, in increasing order. -/
def piecesOf (first last : Nat) : List (Nat × Nat) :=
  match cut? first last with
  | some (stop, start) =>
    if first < start ∧ start ≤ last ∧ stop < last then piecesOf first stop ++ piecesOf start last
    else [(first, last)]
  | none => [(first, last)]
termination_by last - first

/-- The bytes that spell a code point. -/
def bytesOf (n : Nat) : List Nat := (String.utf8EncodeChar (Char.ofNat n)).map UInt8.toNat

end ByteRanges

open ByteRanges in
/-- The sequences of byte ranges for a set, in increasing order. -/
def CharSet.byteRanges (s : CharSet) : List (List (Nat × Nat)) :=
  s.ranges.flatMap fun (first, last) =>
    (piecesOf first last).map fun (first, last) => (bytesOf first).zip (bytesOf last)

end DocMarkdown
