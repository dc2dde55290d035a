/-!
# Sets of characters

A set of characters is a list of ranges of code points. The ranges are in increasing order, and
between two of them there is a code point that is in neither.

## Main definitions

* `CharSet` — a set of characters
* `CharSet.contains` — whether a character is in a set
* `CharSet.ofCodes` — the set of the characters with given code points
* `CharSet.union`, `CharSet.complement`, `CharSet.inter`, `CharSet.without`,
  `CharSet.differing` — the operations on sets
-/

namespace DocMarkdown

/-- A set of characters, by the first and the last code point of each of its ranges. -/
structure CharSet where
  ranges : List (Nat × Nat)
deriving DecidableEq, Repr

namespace CharSet

/-- Whether ranges in increasing order hold a code point. -/
def holds (n : Nat) : List (Nat × Nat) → Bool
  | [] => false
  | (first, last) :: rest => first ≤ n && (n ≤ last || holds n rest)

/-- Whether a character is in a set. -/
def contains (s : CharSet) (c : Char) : Bool := holds c.toNat s.ranges

/-- A range and others in the order of their starts, joined where they overlap or touch. -/
def joinFrom (first last : Nat) : List (Nat × Nat) → List (Nat × Nat)
  | [] => [(first, last)]
  | (start, stop) :: rest =>
    if start ≤ last + 1 then joinFrom first (max last stop) rest
    else (first, last) :: joinFrom start stop rest

/-- Ranges in the order of their starts, joined where they overlap or touch. -/
def joined : List (Nat × Nat) → List (Nat × Nat)
  | [] => []
  | (first, last) :: rest => joinFrom first last rest

/-- The characters that are in one of two sets. -/
def union (s t : CharSet) : CharSet :=
  ⟨joined (s.ranges.merge t.ranges fun range range' => range.1 ≤ range'.1)⟩

/-- The set of the characters with given code points. -/
def ofCodes (codes : List Nat) : CharSet := ⟨joined (codes.mergeSort.map fun n => (n, n))⟩

/-- The set of no characters. -/
def nothing : CharSet := ⟨[]⟩

/-- The set of the characters from one to another. -/
def range (first last : Char) : CharSet := ⟨[(first.toNat, last.toNat)]⟩

/-- The set of one character. -/
def single (c : Char) : CharSet := range c c

/-- The one character of a set that has just one. -/
def single? (s : CharSet) : Option Char :=
  match s.ranges with
  | [(first, last)] => if first = last then some (Char.ofNat first) else none
  | _ => none

/-- The greatest code point. -/
def maxCode : Nat := 0x10FFFF

/-- The code point before another one. The surrogates, which are no characters, are passed over. -/
def codeBefore (n : Nat) : Nat := if n = 0xE000 then 0xD7FF else n - 1

/-- The code point after another one. -/
def codeAfter (n : Nat) : Nat := if n = 0xD7FF then 0xE000 else n + 1

/-- The ranges from `first` on that lie between given ranges. -/
def gaps (first : Nat) : List (Nat × Nat) → List (Nat × Nat)
  | [] => if first ≤ maxCode then [(first, maxCode)] else []
  | (start, stop) :: rest =>
    let later := gaps (codeAfter stop) rest
    if first < start then (first, codeBefore start) :: later else later

/-- The characters that are not in a set. -/
def complement (s : CharSet) : CharSet := ⟨gaps 0 s.ranges⟩

/-- The set of all characters. -/
def everything : CharSet := complement nothing

/-- The characters that are in both of two sets. -/
def inter (s t : CharSet) : CharSet := (s.complement.union t.complement).complement

/-- The characters that are in one set and not in another. -/
def without (s t : CharSet) : CharSet := s.inter t.complement

/-- The characters that are in just one of two sets. -/
def differing (s t : CharSet) : CharSet := (s.union t).without (s.inter t)

/-- Whether a set holds characters of ASCII only. -/
def isAscii (s : CharSet) : Bool := s.ranges.all fun (_, last) => last < 0x80

/-- The characters of ASCII. -/
def ascii : CharSet := ⟨[(0, 0x7F)]⟩

/-- The characters with the code points that fit in a byte. -/
def bytes : CharSet := ⟨[(0, 0xFF)]⟩

-- Ranges that touch are joined.
example : (range 'd' 'f').union (range 'a' 'c') = range 'a' 'f' := by cbv

example : (range 'a' 'f').without (single 'c') = ⟨[(0x61, 0x62), (0x64, 0x66)]⟩ := by cbv

end CharSet

end DocMarkdown
