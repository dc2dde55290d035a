import DocMarkdown.Pattern.Bracket
import DocMarkdown.Pattern.Machine

/-!
# Reading patterns

A pattern is read from left to right. Groups may stand inside each other; what surrounds the group
that is being read waits on a stack of frames. Modes that are set inside a group end with it.

A text is not a pattern if a group or a set is left open, if a repetition has nothing to repeat or
an impossible count, if an escape or a mode is unknown, if it looks ahead, behind or back, or if
the compiled pattern would be too large.

## Main definitions

* `Frame` — what has been read of a group, branch by branch
* `PatternReader` — the open groups, the modes, and the names given to groups
* `Pattern.ofString?` — the pattern that a string spells
-/

namespace DocMarkdown

/-- How deep the syntax of a pattern may be nested. -/
def Pattern.maxDepth : Nat := 250

/-- What has been read of a group. -/
structure Frame where
  /-- The number of the group, if its place in a match is kept. -/
  number : Option Nat
  /-- The modes in force before the group, to which its end returns. -/
  outer : Flags
  /-- The branches before the current one, the latest first. -/
  branches : List (Nested Pattern)
  /-- The items of the current branch but for the last one, the latest first. -/
  items : List (Nested Pattern)
  /-- The last item of the current branch, if a repetition may apply to it. -/
  last : Option (Nested Pattern)

namespace Frame

/-- A group of which nothing has been read. -/
def start (number : Option Nat) (outer : Flags) : Frame := ⟨number, outer, [], [], none⟩

variable (frame : Frame)

/-- One more item of the current branch. -/
def push (item : Nested Pattern) : Frame :=
  { frame with items := frame.last.toList ++ frame.items, last := some item }

/-- An item of the current branch that matches the empty text and cannot be repeated. -/
def pushModes : Frame :=
  { frame with items := ⟨.empty, 0⟩ :: (frame.last.toList ++ frame.items), last := none }

/-- The current branch as a whole. -/
def branch : Nested Pattern :=
  let items := frame.last.toList ++ frame.items
  ⟨.inSequence (items.reverse.map (·.value)), Nested.depthOfAll items⟩

/-- All branches so far. -/
def united : Nested Pattern :=
  let branches := frame.branch :: frame.branches
  ⟨.oneOf (branches.reverse.map (·.value)), Nested.depthOfAll branches⟩

/-- The group as a whole. -/
def whole : Nested Pattern :=
  let united := frame.united
  match frame.number with
  | some number => ⟨.group number united.value, united.depth + 1⟩
  | none => ⟨united.value, united.depth + 1⟩

/-- Starts another branch. -/
def split : Frame :=
  { frame with branches := frame.branch :: frame.branches, items := [], last := none }

/-- Repeats the last item, if it is not as deep as a pattern may be. -/
def again? (least : Nat) (most : Option Nat) : Option Frame := do
  let item ← frame.last
  if item.depth < Pattern.maxDepth then
    some { frame with last := some ⟨.repeated item.value least most, item.depth + 1⟩ }
  else none

end Frame

/-- What has been read of a pattern. -/
structure PatternReader where
  flags : Flags
  /-- The group that is being read, and those around it. -/
  frame : Frame
  around : List Frame
  /-- How many groups are numbered, from one on. -/
  groups : Nat
  /-- The names given to groups. -/
  names : List Text

namespace PatternReader

/-- The greatest count of a repetition. -/
def maxCount : Nat := 0xFFFFFFFF

/-- Reads a count with blanks on its two sides. -/
def readCount? (flags : Flags) (t : Text) : Option (Nat × Text) :=
  let t := Text.trimStart t
  let (digits, rest) := flags.spanSpaced Char.isDigit t
  let count := digits.foldl (fun n c => 10 * n + (c.toNat - '0'.toNat)) 0
  if digits.isEmpty || maxCount < count then none
  else some (count, (flags.spanSpaced Text.isBlank rest).2)

/-- Reads the counts of a repetition, from the character after the brace. -/
def readCounts? (flags : Flags) (t : Text) : Option ((Nat × Option Nat) × Text) := do
  let (least, rest) ← readCount? flags (flags.skipSpace t)
  match rest with
  | '}' :: rest => some ((least, some least), rest)
  | ',' :: rest =>
    match flags.skipSpace rest with
    | '}' :: rest => some ((least, none), rest)
    | rest => do
      let (most, rest) ← readCount? flags rest
      match rest with
      | '}' :: rest => if least ≤ most then some ((least, some most), rest) else none
      | _ => none
  | _ => none

/-- Passes over the mark that makes a repetition prefer few rounds; it does not change whether a
pattern occurs. -/
def skipLazy : Text → Text
  | '?' :: rest => rest
  | rest => rest

/-- Sets or clears the mode that a letter stands for. -/
def setFlag? (flags : Flags) (value : Bool) : Char → Option Flags
  | 'i' => some { flags with anyCase := value }
  | 'm' => some { flags with multiLine := value }
  | 's' => some { flags with dotAll := value }
  | 'u' => some { flags with unicode := value }
  | 'R' => some { flags with eitherEnd := value }
  | 'x' => some { flags with spaced := value }
  | 'U' => some flags
  | _ => none

/-- Sets the modes that letters stand for; those after a hyphen are cleared. No letter may be
given twice, and the hyphen only once and not in the last place. -/
def setFlags? (flags : Flags) (letters : Text) : Option Flags :=
  if letters.Nodup ∧ letters.getLast? ≠ some '-' then go flags true letters else none
where
  go (flags : Flags) (value : Bool) : Text → Option Flags
    | [] => some flags
    | '-' :: rest => go flags false rest
    | c :: rest => do go (← setFlag? flags value c) value rest

/-- A character that the name of a group may start with. -/
def isNameStart (c : Char) : Bool :=
  c == '_' || c.isAlpha ||
    (0x80 ≤ c.toNat && CharSet.word.contains c && !CharSet.digit.contains c)

/-- A character that may stand in the name of a group. -/
def isNameChar (c : Char) : Bool :=
  isNameStart c || c == '.' || c == '[' || c == ']' || CharSet.digit.contains c

/-- Reads the name of a group, up to its closing bracket. -/
def readName? (t : Text) : Option (Text × Text) :=
  let name := t.takeWhile (· != '>')
  match name, t.dropWhile (· != '>') with
  | first :: others, _ :: rest =>
    if isNameStart first && others.all isNameChar then some (name, rest) else none
  | _, _ => none

variable (r : PatternReader)

/-- One more item of the current branch. -/
def push (item : Pattern) : PatternReader := { r with frame := r.frame.push ⟨item, 0⟩ }

/-- One more character. -/
def pushChar (c : Char) : PatternReader := r.push (.ofSet (r.flags.fold (.single c)))

/-- Any character, or any that does not end a line. -/
def pushDot? : Option PatternReader :=
  let excluded :=
    if r.flags.dotAll then .nothing
    else if r.flags.eitherEnd then (CharSet.single '\n').union (.single '\r')
    else .single '\n'
  (r.flags.complement? excluded).map fun set => r.push (.ofSet set)

/-- What an escape means. Without Unicode a byte outside ASCII is no character. -/
def pushEscape? : Escape → Option PatternReader
  | .char c => some (r.pushChar c)
  | .byte c => (r.flags.allow? (.single c)).map fun _ => r.pushChar c
  | .set s => some (r.push (.ofSet s))
  | .check a => some (r.push (.check a))

/-- Opens a group in given modes. -/
def openFrame (number : Option Nat) (flags : Flags) : PatternReader :=
  { r with flags := flags, frame := .start number r.flags, around := r.frame :: r.around }

/-- Opens a numbered group. -/
def openNumbered : PatternReader :=
  { r.openFrame (some (r.groups + 1)) r.flags with groups := r.groups + 1 }

/-- Opens a group with a name, read up to its closing bracket. -/
def openNamed? (t : Text) : Option (PatternReader × Text) := do
  let (name, rest) ← readName? t
  if r.names.contains name then none
  else some ({ r.openNumbered with names := name :: r.names }, rest)

/-- Opens a group or sets modes, from the character after the parenthesis. -/
def openGroup? (t : Text) : Option (PatternReader × Text) :=
  match r.flags.skipSpace t with
  | '?' :: '=' :: _ | '?' :: '!' :: _ | '?' :: '<' :: '=' :: _ | '?' :: '<' :: '!' :: _ => none
  | '?' :: 'P' :: '<' :: rest => r.openNamed? rest
  | '?' :: '<' :: rest => r.openNamed? rest
  -- Modes alone hold until the end of the group around them, modes with a colon for a new group.
  | '?' :: rest => do
    let letters := rest.takeWhile fun c => !(c == ':' || c == ')')
    let flags ← setFlags? r.flags letters
    match rest.dropWhile fun c => !(c == ':' || c == ')') with
    | ':' :: rest => some (r.openFrame none flags, rest)
    | _ :: rest =>
      if letters.isEmpty then none
      else some ({ r with flags := flags, frame := r.frame.pushModes }, rest)
    | [] => none
  | rest => some (r.openNumbered, rest)

/-- Closes a group. -/
def closeGroup? : Option PatternReader :=
  match r.around with
  | frame :: around =>
    some { r with
      flags := r.frame.outer
      frame := frame.push r.frame.whole
      around := around }
  | [] => none

/-- Repeats the last item. -/
def again? (least : Nat) (most : Option Nat) : Option PatternReader := do
  some { r with frame := ← r.frame.again? least most }

/-- Reads one item, which starts with the character `c`. -/
def readItem? (c : Char) (rest : Text) : Option (PatternReader × Text) := do
  match c with
  | '(' => r.openGroup? rest
  | ')' => some (← r.closeGroup?, rest)
  | '|' => some ({ r with frame := r.frame.split }, rest)
  | '?' => some (← r.again? 0 (some 1), skipLazy rest)
  | '*' => some (← r.again? 0 none, skipLazy rest)
  | '+' => some (← r.again? 1 none, skipLazy rest)
  | '{' =>
    let ((least, most), rest) ← readCounts? r.flags rest
    some (← r.again? least most, skipLazy (r.flags.skipSpace rest))
  | '[' =>
    let (set, rest) ← Bracket.read? r.flags rest
    some ({ r with frame := r.frame.push ⟨.ofSet set.value, set.depth⟩ }, rest)
  | '\\' =>
    let (escape, rest) ← Escape.read? r.flags rest
    some (← r.pushEscape? escape, rest)
  | '.' => some (← r.pushDot?, rest)
  | '^' => some (r.push (.check r.flags.atStart), rest)
  | '$' => some (r.push (.check r.flags.atEnd), rest)
  | c => some (r.pushChar c, rest)

/-- Reads on to the end of the text, where no group may be open. Every round reads a character at
least, so `rounds` may be the length of the text. -/
def readOn? : (rounds : Nat) → PatternReader → Text → Option (Nested Pattern)
  | 0, _, _ => none
  | rounds + 1, r, t =>
    match r.flags.skipSpace t with
    | [] => if r.around.isEmpty then some r.frame.united else none
    | c :: rest => do
      let (r, rest) ← r.readItem? c rest
      readOn? rounds r rest

end PatternReader

namespace Pattern

/-- The pattern that a string spells, unless it spells none. -/
def ofString? (s : String) : Option Pattern := do
  let t := s.toList
  let read ← PatternReader.readOn? (t.length + 1) ⟨{}, .start none {}, [], 0, []⟩ t
  if read.depth ≤ maxDepth && read.value.hasRoom then some read.value else none

end Pattern

end DocMarkdown
