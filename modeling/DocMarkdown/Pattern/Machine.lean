import DocMarkdown.Letters.ByteRanges
import DocMarkdown.Pattern.Basic
import Std.Data.HashMap

/-!
# The machines of a pattern

A pattern is admitted only if its machines have room. There are two: one reads the bytes of a text
forwards and keeps the places of groups, the other reads them backwards. A machine consists of
states and of the links between them, and its size can be told without building it: this file counts
states and links, part by part.

A part is entered at one state and left at another. To join a part to what follows takes nothing,
unless it is left at a fork, which gets one more link. A repetition takes as many copies of its part
as it has rounds.

## Main definitions

* `Machine` — how many states and links there are so far
* `Pattern.lay?` — lays the states and links of a pattern
* `Pattern.hasRoom` — whether both machines of a pattern have room
-/

namespace DocMarkdown

/-- How many states of a machine there are so far, and the size of what they are linked by. -/
structure Machine where
  states : Nat
  links : Nat

namespace Machine

/-- The size of a state in bytes, but for its links. -/
def stateSize : Nat := 32

/-- The size of a link from a fork in bytes. -/
def forkSize : Nat := 4

/-- The size of a link for a range of bytes. -/
def rangeSize : Nat := 8

/-- The room for a machine in bytes. -/
def room : Nat := 10 * 0x100000

/-- More states and links, if there is room. -/
def grow? (m : Machine) (states links : Nat) : Option Machine :=
  let m : Machine := ⟨m.states + states, m.links + links⟩
  if stateSize * m.states + m.links ≤ room then some m else none

end Machine

/-- A machine after a part has been laid. -/
structure Laid where
  machine : Machine
  /-- The part is left at a fork. -/
  atFork : Bool

namespace Laid

/-- The size of joining the part to what follows. -/
def joint (laid : Laid) : Nat := if laid.atFork then Machine.forkSize else 0

/-- More states and links, and the joint of the part; it is left at a fork or not. -/
def grow? (laid : Laid) (states links : Nat) (atFork : Bool) : Option Laid := do
  some ⟨← laid.machine.grow? states (links + laid.joint), atFork⟩

end Laid

/-- A part of a machine that has a given number of states, and is not left at a fork. -/
def Machine.lay? (m : Machine) (states links : Nat) : Option Laid := do
  some ⟨← m.grow? states links, false⟩

/-! ### Sets

A character is spelt by a few bytes, and the states for different characters are shared as far as
their spellings end alike. Which states are shared depends on those that are remembered: there is a
number of slots, each of which remembers the last state that fell to it. -/

/-- States that are laid for a set: the number of the next one, the size of their links, and what is
remembered, by slots. A state is known by the numbers that describe its links. -/
structure Sharing where
  slots : Nat
  next : Nat
  links : Nat
  remembered : Std.HashMap Nat (List Nat × Nat)

namespace Sharing

/-- The slot of a description: the numbers are mixed into a word one after the other. -/
def slot (slots : Nat) (description : List Nat) : Nat :=
  let word := description.foldl
    (fun word n => (word ^^^ UInt64.ofNat n) * 1099511628211) (14695981039346656037 : UInt64)
  word.toNat % slots

/-- The number of the state with a description: one that is remembered, or else a new one. -/
def state (s : Sharing) (description : List Nat) (links : Nat) : Nat × Sharing :=
  let slot := slot s.slots description
  let new : Nat × Sharing :=
    (s.next, { s with
      next := s.next + 1
      links := s.links + links
      remembered := s.remembered.insert slot (description, s.next) })
  match s.remembered[slot]? with
  | some (known, n) => if known = description then (n, s) else new
  | none => new

/-- Sequences that start with the same range, put together. -/
def byFirst : List (List (Nat × Nat)) → List ((Nat × Nat) × List (List (Nat × Nat)))
  | [] => []
  | [] :: sequences => byFirst sequences
  | (range :: rest) :: sequences =>
    match byFirst sequences with
    | (first, rests) :: others =>
      if first = range then (range, rest :: rests) :: others
      else (range, [rest]) :: (first, rests) :: others
    | [] => [(range, [rest])]

/-- Lays the states that sequences of at most `length` ranges go through forwards, on their way to
the state `stop`: the number of the first state. It comes after those that it leads to. -/
def forwards (stop : Nat) : (length : Nat) → List (List (Nat × Nat)) → Sharing → Nat × Sharing
  | 0, _, s => (stop, s)
  | length + 1, sequences, s =>
    let ranges := byFirst sequences
    let describe := fun (description, s) ((first, last), rests) =>
      let (next, s) :=
        if rests.all (·.isEmpty) then (stop, s) else forwards stop length rests s
      (description ++ [first, last, next], s)
    let (description, s) := ranges.foldl describe ([], s)
    s.state description (Machine.rangeSize * ranges.length)

/-- Lays the states that a sequence goes through backwards, on its way to the state `stop`. -/
def backwards (stop : Nat) (sequence : List (Nat × Nat)) (s : Sharing) : Nat × Sharing :=
  sequence.foldl (fun (next, s) (first, last) => s.state [next, first, last] 0) (stop, s)

end Sharing

/-- The length of the longest spelling of a character. -/
def maxSpelling : Nat := 4

namespace Machine

/-- Lays a set of characters. One of ASCII takes two states; for others there is one state for each
byte, and backwards a fork before all spellings. -/
def laySet? (m : Machine) (backward : Bool) (set : CharSet) : Option Laid :=
  if set.isAscii then m.lay? 2 (rangeSize * set.ranges.length)
  else if backward then
    let sequences := set.byteRanges
    let s : Sharing := ⟨1000, m.states + 2, 0, ∅⟩
    let s := sequences.foldl (fun s sequence => (s.backwards (m.states + 1) sequence).2) s
    m.lay? (s.next - m.states) (s.links + forkSize * sequences.length)
  else
    let s : Sharing := ⟨10000, m.states + 1, 0, ∅⟩
    let s := (s.forwards m.states maxSpelling set.byteRanges).2
    m.lay? (s.next - m.states) s.links

end Machine

/-! ### Choices between literals

A choice between literals is laid as a tree, in which literals that start alike share their start. A
literal that is the start of another one ends inside the tree; what comes after it in the choice is
kept apart from what comes before. -/

namespace LiteralTree

/-- Words in the order in which they are met, cut where the empty word stands. -/
def cutAtEmpty : List (List Nat) → List (List (List Nat))
  | [] => [[]]
  | [] :: words => [] :: cutAtEmpty words
  | word :: words => (cutAtEmpty words).modifyHead (word :: ·)

/-- The words that start with a number, without it. -/
def after (n : Nat) (words : List (List Nat)) : List (List Nat) :=
  words.filterMap fun
    | first :: rest => if first = n then some rest else none
    | [] => none

/-- The numbers that words start with, each of them once. -/
def firsts (words : List (List Nat)) : List Nat := (words.filterMap List.head?).eraseDups

/-- The states and the size of the links for words of at most `length` numbers: for each piece
between empty words a state, and a fork to these and to the end. Of empty words before all others
only one counts. -/
def count : (length : Nat) → List (List Nat) → Nat × Nat
  | 0, _ => (0, 0)
  | length + 1, words =>
    let pieces := cutAtEmpty words
    let inTree := pieces.filter (!·.isEmpty)
    let ends := pieces.length - 1 - ((pieces.takeWhile (·.isEmpty)).length - 1)
    let branches := inTree.flatMap fun piece => (firsts piece).map fun n => after n piece
    let rangeLinks := inTree.map fun piece =>
      let n := (firsts piece).length
      if n = 1 then 0 else Machine.rangeSize * n
    let inner := (branches.filter (·.any (!·.isEmpty))).map (count length)
    (inTree.length + 1 + (inner.map (·.1)).sum,
      rangeLinks.sum + Machine.forkSize * (inTree.length + ends) + (inner.map (·.2)).sum)

end LiteralTree

/-- The bytes that spell a text. -/
def Text.bytes (t : Text) : List Nat := t.flatMap fun c => (String.utf8EncodeChar c).map UInt8.toNat

/-- Lays a choice between literals. -/
def Machine.layLiterals? (m : Machine) (backward : Bool) (literals : List Text) : Option Laid :=
  let words := literals.map fun t => if backward then t.bytes.reverse else t.bytes
  let (states, links) := LiteralTree.count ((words.map List.length).foldl max 0 + 1) words
  m.lay? (states + 1) links

/-! ### Repetitions -/

namespace Machine

variable (part : Machine → Option Laid)

/-- Lays more copies of a part after one. -/
def layMore? : (copies : Nat) → Laid → Option Laid
  | 0, laid => some laid
  | copies + 1, laid => do
    let next ← part laid.machine
    layMore? copies ⟨← next.machine.grow? 0 laid.joint, next.atFork⟩

/-- Lays a number of copies of a part. -/
def layCopies? (copies : Nat) (m : Machine) : Option Laid :=
  match copies with
  | 0 => m.lay? 1 0
  | copies + 1 => do layMore? part copies (← part m)

/-- Lays copies of a part that may each be left out together with those that follow. -/
def layOptional? : (copies : Nat) → Laid → Option Laid
  | 0, laid => laid.grow? 0 0 false
  | copies + 1, laid => do
    -- A fork goes to the copy or past all of them.
    let next ← part (← laid.machine.grow? 1 (2 * forkSize))
    layOptional? copies ⟨← next.machine.grow? 0 laid.joint, next.atFork⟩

/-- Lays a repetition. `takesSome` says that the part cannot match the empty text; a loop around a
part that can takes more forks. -/
def layTimes? (takesSome : Bool) (least : Nat) (most : Option Nat) (m : Machine) : Option Laid :=
  match least, most with
  | 0, some 1 => do (← part (← m.grow? 1 0)).grow? 1 (2 * forkSize) false
  | 0, none =>
    if takesSome then do (← part (← m.grow? 1 0)).grow? 0 forkSize true
    else do (← part m).grow? 3 (4 * forkSize) false
  | least, none => do (← layCopies? part least m).grow? 1 forkSize true
  | least, some most => do
    let copies ← layCopies? part least m
    if most = least then some copies
    else layOptional? part (most - least) ⟨← copies.machine.grow? 1 0, copies.atFork⟩

end Machine

/-! ### Patterns -/

namespace Pattern

mutual

/-- Lays the states and links of a pattern. -/
def lay? (backward : Bool) : Pattern → Machine → Option Laid
  | empty, m | check _, m => m.lay? 1 0
  | literal t, m => m.lay? t.bytes.length 0
  | set s, m => m.laySet? backward s
  | times p least most, m =>
    Machine.layTimes? (fun m => p.lay? backward m) (p.leastSize?.any (0 < ·)) least most m
  | group _ p, m =>
    if backward then p.lay? backward m
    else do (← p.lay? backward (← m.grow? 1 0)).grow? 1 0 false
  | sequence ps, m => layAll? backward ps m
  | choice ps, m =>
    match ps.mapM literal? with
    | some literals => m.layLiterals? backward literals
    | none => do (← layAny? backward 1 ps m).lay? 0 0

/-- Lays patterns one after the other, from the last one on if the machine goes backwards. -/
def layAll? (backward : Bool) : List Pattern → Machine → Option Laid
  | [], m => m.lay? 1 0
  | [p], m => p.lay? backward m
  | p :: ps, m =>
    if backward then do
      let others ← layAll? backward ps m
      let first ← p.lay? backward others.machine
      some ⟨← first.machine.grow? 0 others.joint, first.atFork⟩
    else do
      let first ← p.lay? backward m
      let others ← layAll? backward ps first.machine
      some ⟨← others.machine.grow? 0 first.joint, others.atFork⟩

/-- Lays the branches of a choice from a given one on. The fork before them all and the state after
them are laid when there are two. -/
def layAny? (backward : Bool) : (branch : Nat) → List Pattern → Machine → Option Machine
  | _, [], m => some m
  | branch, p :: ps, m => do
    let laid ← p.lay? backward m
    let states := if branch = 2 then 2 else 0
    layAny? backward (branch + 1) ps
      (← laid.machine.grow? states (Machine.forkSize + laid.joint))

end

mutual

/-- Whether it is plain to see that every match starts at the start of the text, or ends at its end
if `backward`. -/
def isAnchored (backward : Bool) : Pattern → Bool
  | check a => a == if backward then .textEnd else .textStart
  | times p least _ => 0 < least && p.isAnchored backward
  | group _ p => p.isAnchored backward
  | sequence ps => if backward then isLastAnchored ps else isFirstAnchored ps
  | choice ps => areAnchored backward ps
  | empty | literal _ | set _ => false

/-- Whether there is an anchored pattern at the start. -/
def isFirstAnchored : List Pattern → Bool
  | [] => false
  | p :: ps => p.isAnchored false || (p.takesNothing && isFirstAnchored ps)

/-- Whether there is an anchored pattern at the end. -/
def isLastAnchored : List Pattern → Bool
  | [] => false
  | p :: ps => isLastAnchored ps || (p.isAnchored true && allTakeNothing ps)

/-- Whether all of several patterns are anchored. -/
def areAnchored (backward : Bool) : List Pattern → Bool
  | [] => true
  | p :: ps => p.isAnchored backward && areAnchored backward ps

end

/-- Whether a machine of a pattern has room. If matches may be anywhere, it starts with a loop that
passes over any byte; it ends in one more state. The whole match is a group. -/
def machineHasRoom (p : Pattern) (backward : Bool) : Bool :=
  let start :=
    if p.isAnchored backward then (⟨0, 0⟩ : Machine).grow? 1 0
    else (⟨0, 0⟩ : Machine).grow? 3 (2 * Machine.forkSize + Machine.rangeSize)
  let laid? := do (← (group 0 p).lay? backward (← start)).grow? 1 0 false
  laid?.isSome

/-- How many literals a choice has that is looked up in a table of them and needs no machine. -/
def tableLength : Nat := 3000

/-- A choice between literals that needs no machine. -/
def isTable : Pattern → Bool
  | choice ps => tableLength ≤ ps.length && (ps.mapM literal?).isSome
  | _ => false

/-- Whether both machines of a pattern have room, if it needs any. -/
def hasRoom (p : Pattern) : Bool :=
  p.isTable || (p.machineHasRoom false && p.machineHasRoom true)

end Pattern

end DocMarkdown
