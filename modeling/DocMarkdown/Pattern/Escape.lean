import DocMarkdown.Letters.AsciiClasses
import DocMarkdown.Letters.Folding
import DocMarkdown.Letters.WordTable
import DocMarkdown.Pattern.Basic

/-!
# Escapes in patterns

A backslash takes the meaning from a character of punctuation and gives one to a letter. What it
gives is a character, a set of characters, or a condition.

## Main definitions

* `Flags` — the modes a pattern is read in
* `Escape` — what a backslash and the characters after it mean
* `Escape.read?` — reads an escape, from the character after the backslash
-/

namespace DocMarkdown

/-- The modes a pattern is read in. -/
structure Flags where
  /-- Letters match in either case. -/
  anyCase : Bool := false
  /-- The two anchors match at every line. -/
  multiLine : Bool := false
  /-- The dot matches a line end too. -/
  dotAll : Bool := false
  /-- Classes are those of Unicode, not of ASCII. -/
  unicode : Bool := true
  /-- A carriage return ends a line too. -/
  eitherEnd : Bool := false
  /-- Blanks and comments in the pattern mean nothing. -/
  spaced : Bool := false
deriving DecidableEq, Repr

namespace Flags

/-- The word characters of a mode. -/
def word (flags : Flags) : CharSet := if flags.unicode then .word else .asciiWord

/-- What the anchor at the front of a pattern means. -/
def atStart (flags : Flags) : Assertion :=
  if flags.multiLine then .lineStart flags.eitherEnd else .textStart

/-- What the anchor at the end of a pattern means. -/
def atEnd (flags : Flags) : Assertion :=
  if flags.multiLine then .lineEnd flags.eitherEnd else .textEnd

/-- A set as it is matched in a mode. -/
def fold (flags : Flags) (set : CharSet) : CharSet :=
  if !flags.anyCase then set
  else if flags.unicode then set.anyCase
  else set.union ((set.inter .ascii).anyCase.inter .ascii)

/-- A set that a pattern may have. Without Unicode it holds bytes, and those outside ASCII are parts
of characters. -/
def allow? (flags : Flags) (set : CharSet) : Option CharSet :=
  if flags.unicode || set.isAscii then some set else none

/-- All but a set, if a pattern may have that. -/
def complement? (flags : Flags) (set : CharSet) : Option CharSet :=
  flags.allow? (if flags.unicode then set.complement else set.complement.inter .bytes)

/-- Drops what means nothing at the front of a pattern: blanks, and comments, which run from a
number sign to the end of the line. -/
def skipSpace (flags : Flags) (t : Text) : Text := if flags.spaced then skip false t else t
where
  skip : (inComment : Bool) → Text → Text
    | _, [] => []
    | true, c :: rest => skip (c != '\n') rest
    | false, c :: rest =>
      if Text.isBlank c then skip false rest
      else if c == '#' then skip true rest
      else c :: rest

theorem length_skip_le (inComment : Bool) (t : Text) :
    (skipSpace.skip inComment t).length ≤ t.length := by
  fun_induction skipSpace.skip <;> grind

/-- Nothing is added to a pattern by dropping what means nothing. -/
theorem length_skipSpace_le (flags : Flags) (t : Text) :
    (flags.skipSpace t).length ≤ t.length := by
  grind [skipSpace, length_skip_le]

/-- The longest front of a pattern that is made of certain characters, and what follows it. What
means nothing is dropped after each of them. -/
def spanSpaced (flags : Flags) (accept : Char → Bool) : Text → Text × Text
  | [] => ([], [])
  | c :: rest =>
    if accept c then
      let (front, rest) := flags.spanSpaced accept (flags.skipSpace rest)
      (c :: front, rest)
    else ([], c :: rest)
termination_by t => t.length
decreasing_by exact Nat.lt_succ_of_le (flags.length_skipSpace_le rest)

/-- The first characters of a pattern, and what follows them. What means nothing is dropped after
each of them. -/
def splitSpaced (flags : Flags) : (count : Nat) → Text → Text × Text
  | count + 1, c :: rest =>
    let (front, rest) := flags.splitSpaced count (flags.skipSpace rest)
    (c :: front, rest)
  | _, t => ([], t)

end Flags

/-- What a backslash and the characters after it mean. -/
inductive Escape where
  | char (c : Char)
  /-- A character given by two hexadecimal digits, which is a byte without Unicode. -/
  | byte (c : Char)
  | set (s : CharSet)
  | check (a : Assertion)

namespace Escape

/-- The punctuation that has a meaning of its own in a pattern. -/
def punctuation : List Char := "\\.+*?()|[]\x7b\x7d^$#&-~".toList

/-- A character that stands for itself after a backslash: any of ASCII that is no letter and no
digit, and not the two that mark the ends of a word. -/
def standsForItself (c : Char) : Bool :=
  punctuation.contains c || (c.toNat < 0x80 && !c.isAlphanum && c != '<' && c != '>')

/-- The value of a hexadecimal digit. -/
def hexDigit? (c : Char) : Option Nat :=
  if c.isDigit then some (c.toNat - '0'.toNat)
  else if 'a' ≤ c && c ≤ 'f' then some (c.toNat - 'a'.toNat + 10)
  else if 'A' ≤ c && c ≤ 'F' then some (c.toNat - 'A'.toNat + 10)
  else none

/-- The character with a code point given by hexadecimal digits. -/
def charOfHex? (digits : Text) : Option Char := do
  if digits.isEmpty then none
  let values ← digits.mapM hexDigit?
  let n := values.foldl (fun n digit => 16 * n + digit) 0
  if n.isValidChar then some (Char.ofNat n) else none

/-- Reads a code point: digits in braces, or else exactly `count` digits. -/
def readHex? (flags : Flags) (count : Nat) (t : Text) : Option (Escape × Text) :=
  match flags.skipSpace t with
  | '{' :: rest =>
    let rest := flags.skipSpace rest
    match flags.spanSpaced (· != '}') rest with
    | (digits, _ :: rest) => do some (char (← charOfHex? digits), rest)
    | (_, []) => none
  | rest =>
    match flags.splitSpaced count rest with
    | (digits, rest) => do
      let c ← charOfHex? digits
      if digits.length < count then none
      else some (if count = 2 then byte c else char c, rest)

/-- A character of the name of a kind of word boundary. -/
def isBoundaryChar (c : Char) : Bool := c.isAlpha || c == '-'

/-- The word boundary of a given kind. -/
def boundaryOf? (letters : CharSet) : String → Option Assertion
  | "start" => some (.wordStart letters)
  | "end" => some (.wordEnd letters)
  | "start-half" => some (.notAfterWord letters)
  | "end-half" => some (.notBeforeWord letters)
  | _ => none

/-- Reads the rest of a word boundary: its kind in braces, if there is one. Braces that hold
anything but a name are a repetition, and are left to be read as such. -/
def readBoundary? (flags : Flags) (t : Text) : Option (Escape × Text) :=
  match t with
  | '{' :: inner =>
    match flags.spanSpaced isBoundaryChar (flags.skipSpace inner) with
    | ([], []) => none
    | ([], _) => some (check (.boundary flags.word), t)
    | (name, '}' :: rest) => do
      some (check (← boundaryOf? flags.word (String.ofList name)), rest)
    | _ => none
  | _ => some (check (.boundary flags.word), t)

/-- A class of Unicode, or the one of ASCII in its place. -/
def chooseSet (flags : Flags) (unicode ascii : CharSet) : Option Escape :=
  some (set (if flags.unicode then unicode else ascii))

/-- Reads an escape, from the character after the backslash. References back to a group and classes
by property are no escapes. -/
def read? (flags : Flags) : Text → Option (Escape × Text)
  | [] => none
  | 'x' :: rest => readHex? flags 2 rest
  | 'u' :: rest => readHex? flags 4 rest
  | 'U' :: rest => readHex? flags 8 rest
  | 'b' :: rest => readBoundary? flags rest
  | c :: rest => do
    let escape ←
      if standsForItself c then some (char c)
      else match c with
        | 'a' => some (char (Char.ofNat 0x07))
        | 'f' => some (char (Char.ofNat 0x0C))
        | 't' => some (char '\t')
        | 'n' => some (char '\n')
        | 'r' => some (char '\r')
        | 'v' => some (char (Char.ofNat 0x0B))
        | 'A' => some (check .textStart)
        | 'z' => some (check .textEnd)
        | 'B' => some (check (.noBoundary flags.word))
        | '<' => some (check (.wordStart flags.word))
        | '>' => some (check (.wordEnd flags.word))
        | 'd' => chooseSet flags .digit .asciiDigit
        | 's' => chooseSet flags .blank .asciiBlank
        | 'w' => chooseSet flags .word .asciiWord
        | 'D' => (flags.complement? .digit).map set
        | 'S' => (flags.complement? .blank).map set
        | 'W' => (flags.complement? .word).map set
        | _ => none
    some (escape, rest)

end Escape

end DocMarkdown
