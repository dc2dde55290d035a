import DocMarkdown.Letters.CharSet

/-!
# Runs of mapped characters

A mapping of characters is given by runs along which it is a shift.

## Main definitions

* `Run` — code points in even steps and what they are mapped to
* `Run.image?` — where a run takes a code point
* `Run.inverse` — the way back
* `CharSet.addImages` — a set together with where runs take its characters
-/

namespace DocMarkdown

/-- The code points from `first` to `last` in steps of `step`, mapped to those that start at
`target`, in order. -/
structure Run where
  first : Nat
  last : Nat
  step : Nat
  target : Nat

namespace Run

/-- Where a run takes a code point, if it holds it. -/
def image? (run : Run) (n : Nat) : Option Nat :=
  if run.first ≤ n && n ≤ run.last && (n - run.first) % run.step == 0 then
    some (n - run.first + run.target)
  else none

/-- The run that takes every code point back. -/
def inverse (run : Run) : Run :=
  ⟨run.target, run.last - run.first + run.target, run.step, run.first⟩

/-- Where a run takes the code points of a range. -/
def images (run : Run) (range : Nat × Nat) : List Nat :=
  let first := max run.first range.1
  (List.range' first (min run.last range.2 + 1 - first)).filterMap run.image?

end Run

/-- A set together with where runs take its characters. -/
def CharSet.addImages (s : CharSet) (runs : List Run) : CharSet :=
  s.union (.ofCodes (runs.flatMap fun run => s.ranges.flatMap run.images))

end DocMarkdown
