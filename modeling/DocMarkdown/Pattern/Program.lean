import DocMarkdown.Pattern.Basic

/-!
# Where patterns occur

To find out whether a pattern occurs in a text, the pattern is made into a program. The steps of a
program look at one place of the text, and name the steps to be taken next, at this place or at the
one after it. All steps that can be taken at a place are taken before the next place is looked at,
and none of them twice; so the time that a search takes is bounded by the length of the text times
the size of the program.

## Main definitions

* `Step`, `Program` — the steps of a program, and where it starts
* `Pattern.program` — the program of a pattern
* `Program.occursIn` — whether a program comes to its end somewhere in a text
-/

namespace DocMarkdown

/-- A step of a program. -/
inductive Step where
  /-- The pattern has been found. -/
  | stop
  /-- Passes over a character of a set. -/
  | pass (s : CharSet) (next : Nat)
  /-- Goes on if the place satisfies a condition. -/
  | check (a : Assertion) (next : Nat)
  /-- Goes on in two ways. -/
  | fork (next other : Nat)

/-- The steps of a program, and the number of the first. -/
structure Program where
  steps : Array Step
  start : Nat

/-! ### Programs of patterns -/

/-- The steps so far, and the number of the one to take next. Programs are made from their end, so
that what comes after a part is there before the part. -/
structure Draft where
  steps : Array Step
  next : Nat

namespace Draft

/-- Puts a step first. -/
def put (d : Draft) (step : Step) : Draft :=
  let number := d.steps.size
  ⟨d.steps.push step, number⟩

/-- Puts a part first a number of times. -/
def putCopies (d : Draft) (part : Draft → Draft) : Nat → Draft
  | 0 => d
  | n + 1 => (part d).putCopies part n

/-- Puts a part first up to a number of times. Each time it may be left out with all that follow,
and `out` is the step after them. -/
def putOptional (d : Draft) (part : Draft → Draft) (out : Nat) : Nat → Draft
  | 0 => d
  | n + 1 =>
    let d := part d
    (d.put (.fork d.next out)).putOptional part out n

/-- Puts a part first that may be gone through again and again, or unless it is `needed` not at
all. -/
def putLoop (d : Draft) (part : Draft → Draft) (needed : Bool) : Draft :=
  let out := d.next
  -- The way back has its number before the part is there, because the part leads to it.
  let loop := d.put .stop
  let body := part loop
  ⟨body.steps.setIfInBounds loop.next (.fork body.next out),
    if needed then body.next else loop.next⟩

end Draft

namespace Pattern

mutual

/-- Puts a pattern before what a draft holds. -/
def draft : Pattern → Draft → Draft
  | empty, d => d
  | literal t, d => t.foldr (fun c d => d.put (.pass (.single c) d.next)) d
  | set s, d => d.put (.pass s d.next)
  | check a, d => d.put (.check a d.next)
  | times p least (some most), d =>
    let rest := d.putOptional (fun d => p.draft d) d.next (most - least)
    rest.putCopies (fun d => p.draft d) least
  | times p least none, d =>
    let rest := d.putLoop (fun d => p.draft d) (least != 0)
    rest.putCopies (fun d => p.draft d) (least - 1)
  | group _ p, d => p.draft d
  | sequence ps, d => draftAll ps d
  | choice ps, d => draftAny ps d.next d

/-- Puts patterns, one after the other, before what a draft holds. -/
def draftAll : List Pattern → Draft → Draft
  | [], d => d
  | p :: ps, d => p.draft (draftAll ps d)

/-- Puts a choice between patterns, all of which lead to `out`, before what a draft holds. -/
def draftAny : List Pattern → (out : Nat) → Draft → Draft
  | [], out, d => d.put (.pass .nothing out)
  | [p], out, d => p.draft ⟨d.steps, out⟩
  | p :: ps, out, d =>
    let others := draftAny ps out d
    let first := p.draft ⟨others.steps, out⟩
    first.put (.fork first.next others.next)

end

/-- The program of a pattern. -/
def program (p : Pattern) : Program :=
  let d := p.draft ⟨#[.stop], 0⟩
  ⟨d.steps, d.next⟩

end Pattern

/-! ### Running programs -/

/-- What is known while the steps at a place are taken. -/
structure Front where
  /-- For each step the last place where it was taken, counted from one. -/
  taken : Array Nat
  /-- The steps to take at the next place. -/
  later : List Nat
  found : Bool

namespace Program

/-- Takes steps at a place, and all steps at that place that they lead to. No step is taken twice,
and each adds two others at most, which bounds the number of rounds. -/
def advance (steps : Array Step) (place : Nat) (before after : Option Char) :
    (rounds : Nat) → (now : List Nat) → Front → Front
  | 0, _, front => front
  | _, [], front => front
  | rounds + 1, n :: now, front =>
    if front.taken.getD n place == place then advance steps place before after rounds now front
    else
      let front := { front with taken := front.taken.setIfInBounds n place }
      match steps[n]? with
      | some .stop => { front with found := true }
      | some (.pass s next) =>
        if after.any s.contains then
          advance steps place before after rounds now { front with later := next :: front.later }
        else advance steps place before after rounds now front
      | some (.check a next) =>
        if a.holds before after then advance steps place before after rounds (next :: now) front
        else advance steps place before after rounds now front
      | some (.fork next other) =>
        advance steps place before after rounds (next :: other :: now) front
      | none => advance steps place before after rounds now front

/-- Searches a text from a place on: the program may start at every place. -/
def search (program : Program) (place : Nat) (before : Option Char) (front : Front) : Text → Bool
  | [] => (step none).found
  | c :: rest =>
    let front := step (some c)
    front.found || program.search (place + 1) (some c) front rest
where
  /-- Takes all steps at the place. -/
  step (after : Option Char) : Front :=
    let now := program.start :: front.later
    advance program.steps place before after (now.length + 2 * program.steps.size) now
      { front with later := [] }

/-- Whether a program comes to its end somewhere in a text. -/
def occursIn (program : Program) (t : Text) : Bool :=
  program.search 1 none ⟨Array.replicate program.steps.size 0, [], false⟩ t

end Program

end DocMarkdown
