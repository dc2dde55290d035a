import DocMarkdown.Letters.CharSet

/-!
# The classes of ASCII

The classes of characters that have a name, each of which holds characters of ASCII only.

## Main definitions

* `CharSet.named?` — the class of a name
-/

namespace DocMarkdown.CharSet

/-- The digits of ASCII. -/
def asciiDigit : CharSet := range '0' '9'

/-- The letters of ASCII. -/
def asciiLetter : CharSet := (range 'A' 'Z').union (range 'a' 'z')

/-- The word characters of ASCII. -/
def asciiWord : CharSet := (asciiDigit.union asciiLetter).union (single '_')

/-- The blanks of ASCII. -/
def asciiBlank : CharSet := (range '\t' '\r').union (single ' ')

/-- The visible characters of ASCII. -/
def asciiVisible : CharSet := range '!' '~'

/-- The control characters of ASCII. -/
def asciiControl : CharSet :=
  (range (Char.ofNat 0) (Char.ofNat 0x1F)).union (single (Char.ofNat 0x7F))

/-- The class of a name. -/
def named? : String → Option CharSet
  | "alnum" => some (asciiDigit.union asciiLetter)
  | "alpha" => some asciiLetter
  | "ascii" => some ascii
  | "blank" => some ((single '\t').union (single ' '))
  | "cntrl" => some asciiControl
  | "digit" => some asciiDigit
  | "graph" => some asciiVisible
  | "lower" => some (range 'a' 'z')
  | "print" => some (asciiVisible.union (single ' '))
  | "punct" => some (asciiVisible.without (asciiDigit.union asciiLetter))
  | "space" => some asciiBlank
  | "upper" => some (range 'A' 'Z')
  | "word" => some asciiWord
  | "xdigit" => some (asciiDigit.union ((range 'A' 'F').union (range 'a' 'f')))
  | _ => none

end DocMarkdown.CharSet
