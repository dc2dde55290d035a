import DocMarkdown.Letters.LowercaseTable
import DocMarkdown.Letters.CasedTable
import DocMarkdown.Text.Blank

/-!
# Lowercase texts

Names of languages are compared in lowercase. Lowercasing follows Unicode for texts: a character may
have a lowercase form of two characters, and a capital sigma at the end of a word becomes a final
sigma.

## Main definitions

* `lowercaseChar` — the lowercase form of a character outside any word
* `endsWord` — a capital sigma stands at the end of a word
* `lowercase` — the lowercase form of a string
-/

namespace DocMarkdown.Letters

/-- The lowercase form of a character outside any word. Only the capital I with a dot above has a
form of two characters: the small i, and the dot as a mark of its own. -/
def lowercaseChar (c : Char) : Text :=
  if c.toNat < 0x80 then [c.toLower]
  else if c.toNat == 0x130 then ['i', Char.ofNat 0x307]
  else [((lowercaseRuns.findSome? (·.image? c.toNat)).map Char.ofNat).getD c]

/-- Past the case-ignorable characters, a text goes on with a cased one. -/
def meetsCased (t : Text) : Bool :=
  match t.dropWhile caseIgnorable.contains with
  | c :: _ => cased.contains c
  | [] => false

/-- A place between `before`, given backwards, and `after` is the end of a word: a letter stands
before it and none after it. -/
def endsWord (before after : Text) : Bool := meetsCased before && !meetsCased after

/-- The lowercase form of a text that follows `before`, given backwards. -/
def lowercaseAfter (before : Text) : Text → Text
  | [] => []
  | c :: rest =>
    let small :=
      if c.toNat == 0x3A3 && endsWord before rest then [Char.ofNat 0x3C2] else lowercaseChar c
    small ++ lowercaseAfter (c :: before) rest

/-- The lowercase form of a string. -/
def lowercase (s : String) : String := String.ofList (lowercaseAfter [] s.toList)

end DocMarkdown.Letters
