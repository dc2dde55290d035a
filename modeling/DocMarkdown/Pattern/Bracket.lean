import DocMarkdown.Pattern.Escape

/-!
# Sets in brackets

A set in brackets lists characters, ranges, classes and further sets in brackets. Three operators
of two characters each combine what stands on their two sides, from left to right.

## Main definitions

* `Nested` — a piece of a pattern, and how deep the syntax is nested in it
* `Bracket` — an open bracket and what it has listed so far
* `Bracket.read?` — reads a set, from the character after its first bracket
-/

namespace DocMarkdown

/-- A piece of a pattern, and how deep lists, brackets, groups and repetitions are nested in it. -/
structure Nested (α : Type) where
  value : α
  depth : Nat

/-- The depth of several pieces in a row. One by itself is no list. -/
def Nested.depthOfAll {α : Type} : List (Nested α) → Nat
  | [] => 0
  | [piece] => piece.depth
  | pieces => pieces.foldl (fun depth piece => max depth piece.depth) 0 + 1

/-- An open bracket and what it has listed so far. -/
structure Bracket where
  /-- The set is what is not listed. -/
  negated : Bool
  /-- What is listed since the last operator. -/
  listed : List (Nested CharSet)
  /-- The last operator, applied to the set on its left. -/
  pending : Option (Nested CharSet → Nested CharSet)

namespace Bracket

variable (flags : Flags) (b : Bracket)

/-- Lists one more set. -/
def list (set : Nested CharSet) : Bracket := { b with listed := set :: b.listed }

/-- What all that is listed so far makes up. -/
def combined : Nested CharSet :=
  let union := (b.listed.map (·.value)).foldl CharSet.union .nothing
  let listed : Nested CharSet := ⟨union, Nested.depthOfAll b.listed⟩
  match b.pending with
  | some operate => operate listed
  | none => listed

/-- Continues after an operator. -/
def operate (operator : CharSet → CharSet → CharSet) : Bracket :=
  let left := b.combined
  { b with
    listed := []
    pending := some fun right =>
      ⟨operator (flags.fold left.value) (flags.fold right.value), max left.depth right.depth + 1⟩ }

/-- The set that a bracket makes up when it is closed. -/
def close? : Option (Nested CharSet) := do
  let all := b.combined
  let set := flags.fold all.value
  some ⟨← if b.negated then flags.complement? set else flags.allow? set, all.depth + 1⟩

/-- A character as an item of a list. -/
def item (c : Char) : Nested CharSet := ⟨.single c, 0⟩

/-- Opens a bracket. Hyphens at its front are listed as they stand, and so is a closing bracket in
the first place. -/
def open? (t : Text) : Option (Bracket × Text) :=
  let t := flags.skipSpace t
  let (negated, t) := match t with
    | '^' :: rest => (true, flags.skipSpace rest)
    | t => (false, t)
  let (hyphens, t) := flags.spanSpaced (· == '-') t
  let bracket : Bracket := ⟨negated, hyphens.map item, none⟩
  match t, hyphens with
  | [], _ => none
  | ']' :: rest, [] => some (bracket.list (item ']'), flags.skipSpace rest)
  | t, _ => some (bracket, t)

/-- Reads a class of ASCII by its name, from the character after its bracket: `:name:]`, or
`:^name:]` for all but the class. A name that is not known is no error here; its characters are then
listed one by one. -/
def readNamed? : Text → Option (Bool × CharSet × Text)
  | ':' :: rest =>
    let (negated, rest) := match rest with
      | '^' :: rest => (true, rest)
      | rest => (false, rest)
    match rest.dropWhile (· != ':') with
    | ':' :: ']' :: after => do
      some (negated, ← CharSet.named? (String.ofList (rest.takeWhile (· != ':'))), after)
    | _ => none
  | _ => none

/-- Reads one character or class of a list. -/
def readItem? : Text → Option (Escape × Text)
  | [] => none
  | '\\' :: rest => Escape.read? flags rest
  | c :: rest => some (.char c, rest)

/-- The character that an item of a list is. Without Unicode it is a byte, and a character outside
ASCII is none. -/
def char? : Escape → Option Char
  | .char c => if flags.unicode || c.toNat < 0x80 then some c else none
  | .byte c => some c
  | _ => none

/-- Reads a character, a range or a class. A hyphen makes a range unless a closing bracket or
another hyphen follows it. -/
def readRange? (t : Text) : Option (CharSet × Text) := do
  let (item, rest) ← readItem? flags t
  let rest := flags.skipSpace rest
  let alone ← match item with
    | .set s => some s
    | item => (char? flags item).map .single
  match rest with
  | '-' :: upper =>
    let upper := flags.skipSpace upper
    match upper with
    | ']' :: _ | '-' :: _ => some (alone, rest)
    | upper => do
      let (last, rest) ← readItem? flags upper
      let first ← char? flags item
      let last ← char? flags last
      if first ≤ last then some (.range first last, rest) else none
  | rest => some (alone, rest)

/-- Reads on in the bracket `current`, which stands inside those of `outer`, until the outermost
one is closed. Every round reads a character at least, so `rounds` may be a text that is as long as
what is left to read. -/
def readOn? :
    (rounds : Text) → (current : Bracket) → (outer : List Bracket) → Text →
      Option (Nested CharSet × Text)
  | [], _, _, _ => none
  | _ :: rounds, current, outer, t =>
    match flags.skipSpace t with
    | [] => none
    | '[' :: rest =>
      -- A bracket inside a bracket opens a named class if it can, and else a set of its own.
      match readNamed? rest with
      | some (negated, set, rest) => do
        let set := flags.fold set
        let set ← if negated then flags.complement? set else some set
        readOn? rounds (current.list ⟨set, 0⟩) outer rest
      | none => do
        let (inner, rest) ← open? flags rest
        readOn? rounds inner (current :: outer) rest
    | ']' :: rest => do
      let set ← current.close? flags
      match outer with
      | [] => some (set, rest)
      | around :: outer => readOn? rounds (around.list set) outer rest
    | '&' :: '&' :: rest => readOn? rounds (current.operate flags .inter) outer rest
    | '-' :: '-' :: rest => readOn? rounds (current.operate flags .without) outer rest
    | '~' :: '~' :: rest => readOn? rounds (current.operate flags .differing) outer rest
    | t => do
      let (set, rest) ← readRange? flags t
      readOn? rounds (current.list ⟨set, 0⟩) outer rest

/-- Reads a set, from the character after its first bracket. -/
def read? (t : Text) : Option (Nested CharSet × Text) := do
  let (bracket, rest) ← open? flags t
  readOn? flags t bracket [] rest

end Bracket

end DocMarkdown
