import DocMarkdown.Letters.CharSet
import DocMarkdown.Text.Blank

/-!
# Patterns

A pattern describes pieces of text. It occurs in a text if it matches some piece of it.

Patterns are put together by functions that keep them small: literals that follow each other are one
literal, a choice between characters is a set, and what the branches of a choice start with in
common stands before the choice.

## Main definitions

* `Assertion` — a condition on a place between two characters
* `Pattern` — what a piece of text has to be
* `Pattern.ofSet`, `Pattern.inSequence`, `Pattern.oneOf`, `Pattern.repeated` — put patterns together
* `Pattern.takesNothing`, `Pattern.leastSize?` — how long the pieces are that a pattern matches
-/

namespace DocMarkdown

/-- A condition on a place, in terms of the character before it and the character after it. -/
inductive Assertion where
  | textStart
  | textEnd
  /-- At the start of a line; lines end in line feeds, or else in both characters that end lines. -/
  | lineStart (eitherEnd : Bool)
  | lineEnd (eitherEnd : Bool)
  /-- Between a word character and any other. -/
  | boundary (letters : CharSet)
  | noBoundary (letters : CharSet)
  | wordStart (letters : CharSet)
  | wordEnd (letters : CharSet)
  /-- No word character before the place. -/
  | notAfterWord (letters : CharSet)
  /-- No word character after the place. -/
  | notBeforeWord (letters : CharSet)
deriving DecidableEq, Repr

/-- Whether a condition holds between two characters, either of which may be missing. -/
def Assertion.holds (before after : Option Char) : Assertion → Bool
  | textStart => before.isNone
  | textEnd => after.isNone
  | lineStart false => before.all (· == '\n')
  | lineStart true => before.all fun c => c == '\n' || (c == '\r' && after != some '\n')
  | lineEnd false => after.all (· == '\n')
  | lineEnd true => after.all fun c => c == '\r' || (c == '\n' && before != some '\r')
  | boundary letters => before.any letters.contains != after.any letters.contains
  | noBoundary letters => before.any letters.contains == after.any letters.contains
  | wordStart letters => !before.any letters.contains && after.any letters.contains
  | wordEnd letters => before.any letters.contains && !after.any letters.contains
  | notAfterWord letters => !before.any letters.contains
  | notBeforeWord letters => !after.any letters.contains

/-- What a piece of text has to be. -/
inductive Pattern where
  /-- The empty text. -/
  | empty
  /-- A given text. -/
  | literal (t : Text)
  /-- One character of a set. -/
  | set (s : CharSet)
  /-- The empty text, in a place with a given condition. -/
  | check (a : Assertion)
  /-- At least so many times, and at most so many if there is a bound. -/
  | times (p : Pattern) (least : Nat) (most : Option Nat)
  /-- A numbered group, the place of which in a match is kept. -/
  | group (number : Nat) (p : Pattern)
  /-- One after the other. -/
  | sequence (ps : List Pattern)
  /-- Any of several. -/
  | choice (ps : List Pattern)
deriving Repr

namespace Pattern

mutual

/-- Whether two patterns are the same. -/
def same : Pattern → Pattern → Bool
  | empty, empty => true
  | literal s, literal t => s == t
  | set s, set t => s == t
  | check a, check b => a == b
  | times p least most, times q least' most' => least == least' && most == most' && p.same q
  | group number p, group number' q => number == number' && p.same q
  | sequence ps, sequence qs | choice ps, choice qs => allSame ps qs
  | _, _ => false

/-- Whether two lists hold the same patterns. -/
def allSame : List Pattern → List Pattern → Bool
  | [], [] => true
  | p :: ps, q :: qs => p.same q && allSame ps qs
  | _, _ => false

end

/-! ### The pieces that a pattern matches -/

mutual

/-- A pattern that matches the empty text at most. -/
def takesNothing : Pattern → Bool
  | empty | check _ => true
  | literal _ | set _ => false
  | times p _ most => most.isSome && p.takesNothing
  | group _ p => p.takesNothing
  | sequence ps | choice ps => allTakeNothing ps

/-- Patterns that match the empty text at most. -/
def allTakeNothing : List Pattern → Bool
  | [] => true
  | p :: ps => p.takesNothing && allTakeNothing ps

end

mutual

/-- The size in bytes that a match has at least; `none` if there is a part that matches nothing. -/
def leastSize? : Pattern → Option Nat
  | empty | check _ => some 0
  | literal t => some (t.map Char.utf8Size).sum
  | set s => s.ranges.head?.map fun (first, _) => (Char.ofNat first).utf8Size
  | times p least _ => p.leastSize?.map (· * least)
  | group _ p => p.leastSize?
  | sequence ps => leastSizeOfAll? ps
  | choice ps => leastSizeOfAny? ps

/-- The size that matches of several patterns have together. -/
def leastSizeOfAll? : List Pattern → Option Nat
  | [] => some 0
  | p :: ps => do some ((← p.leastSize?) + (← leastSizeOfAll? ps))

/-- The size that a match of one of several patterns has at least. -/
def leastSizeOfAny? : List Pattern → Option Nat
  | [] => none
  | [p] => p.leastSize?
  | p :: ps => do some (min (← p.leastSize?) (← leastSizeOfAny? ps))

end

/-! ### Putting patterns together -/

/-- One character of a set. -/
def ofSet (s : CharSet) : Pattern :=
  match s.single? with
  | some c => literal [c]
  | none => set s

/-- A pattern over and over. What matches nothing but the empty text is repeated once at most. -/
def repeated (p : Pattern) (least : Nat) (most : Option Nat) : Pattern :=
  let (least, most) :=
    if p.takesNothing then (min least 1, some (min (most.getD 1) 1)) else (least, most)
  if most = some 0 then empty
  else if least = 1 && most = some 1 then p
  else times p least most

/-- Joins literals that follow each other. -/
def joinLiterals : List Pattern → List Pattern
  | [] => []
  | literal s :: ps =>
    match joinLiterals ps with
    | literal t :: rest => literal (s ++ t) :: rest
    | rest => literal s :: rest
  | p :: ps => p :: joinLiterals ps

/-- The parts that a pattern has in a sequence. -/
def parts : Pattern → List Pattern
  | empty => []
  | sequence ps => ps
  | p => [p]

/-- Patterns one after the other. -/
def inSequence (ps : List Pattern) : Pattern :=
  match joinLiterals (ps.flatMap parts) with
  | [] => empty
  | [p] => p
  | ps => sequence ps

/-- The branches that a pattern has in a choice. -/
def branches : Pattern → List Pattern
  | choice ps => ps
  | p => [p]

/-- The text of a literal. -/
def literal? : Pattern → Option Text
  | literal t => some t
  | _ => none

/-- The character of a literal that has just one. -/
def char? : Pattern → Option Char
  | literal [c] => some c
  | _ => none

/-- The set of a pattern that is one. -/
def set? : Pattern → Option CharSet
  | set s => some s
  | _ => none

/-- The parts of a sequence. -/
def sequence? : Pattern → Option (List Pattern)
  | sequence ps => some ps
  | _ => none

/-- A choice between characters, or between sets, as one set. -/
def oneSet? (ps : List Pattern) : Option Pattern :=
  let sets := (ps.mapM char?).map (·.map CharSet.single) <|> ps.mapM set?
  sets.map fun sets => ofSet (sets.foldl CharSet.union .nothing)

/-- A choice that `simplify?` is asked to simplify. -/
def oneOfSimplified (simplify? : List Pattern → Option Pattern) (ps : List Pattern) : Pattern :=
  match ps.flatMap branches with
  | [] => set .nothing
  | [p] => p
  | ps => (oneSet? ps <|> simplify? ps).getD (choice ps)

/-- The number of parts that two sequences start with in common. -/
def sharedLength : List Pattern → List Pattern → Nat
  | p :: ps, q :: qs => if p.same q then sharedLength ps qs + 1 else 0
  | _, _ => 0

/-- A choice between sequences that start with the same parts: these parts, and then the choice. -/
def shareStart? (ps : List Pattern) : Option Pattern := do
  let all ← ps.mapM sequence?
  let first ← all.head?
  let shared := all.foldl (fun n others => min n (sharedLength first others)) first.length
  if shared = 0 then none
  else
    let choice := oneOfSimplified (fun _ => none) (all.map fun ps => inSequence (ps.drop shared))
    some (inSequence (first.take shared ++ [choice]))

/-- Any of several patterns. -/
def oneOf (ps : List Pattern) : Pattern := oneOfSimplified shareStart? ps

-- A choice between characters is a set.
example : oneOf [literal ['a'], literal ['b']] = set (.range 'a' 'b') := by cbv

-- What the branches start with comes first.
example :
    oneOf [inSequence [set .ascii, literal ['a']], inSequence [set .ascii, literal ['b']]] =
      sequence [set .ascii, set (.range 'a' 'b')] := by
  cbv

end Pattern

end DocMarkdown
