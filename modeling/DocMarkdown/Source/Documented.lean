import DocMarkdown.Comment.Body
import DocMarkdown.Source.Block
import DocMarkdown.Text.Spacing

/-!
# Documented declarations

A block becomes a documented declaration: the trimmed fragment after the comment, and the comment's
body in its uniform shape. Import statements are not documented: a comment before one belongs to
the file, not to a declaration.

## Main definitions

* `Documented` — a declaration and the comment above it
* `documentedIn` — the documented declarations of a source text, in order
* `label` — the one line that names a declaration

## Main results

* `documentedIn_eq` — the documented declarations, one block at a time
-/

namespace DocMarkdown

/-- A declaration and the comment that documents it. -/
structure Documented where
  declaration : Text
  comment : Text
deriving DecidableEq, Repr

/-- An import statement: the word, and a blank after it. -/
def isImport (declaration : Text) : Bool :=
  match "import".toList.isPrefixOf? declaration with
  | some (c :: _) => Text.isBlank c
  | _ => false

/-- The declaration that a block documents, unless it is an import statement. The fragment is
trimmed before it is looked at, so the word alone is not taken for an import. -/
def Documented.ofBlock? (b : Block) : Option Documented :=
  let declaration := Text.trim b.fragment
  if isImport declaration then none else some ⟨declaration, markParagraphs b.body⟩

/-- The documented declarations of a source text, in order. -/
def documentedIn (code : Text) : List Documented :=
  (Source.ofText code).blocks.filterMap Documented.ofBlock?

/-- A source text without a block documents nothing, and any other what its first block does,
before what the rest does. -/
theorem documentedIn_eq (code : Text) :
    documentedIn code =
      match Block.next? code with
      | none => []
      | some (block, rest) => (Documented.ofBlock? block).toList ++ documentedIn rest := by
  rw [documentedIn, Source.ofText]
  split
  · next h => simp [h]
  · next block rest h =>
    rw [h]
    cases ofBlock : Documented.ofBlock? block <;> simp [documentedIn, List.filterMap, ofBlock]

/-- The one line that names a declaration: what stands before its body or its end. -/
def label (declaration : Text) : Text :=
  Text.oneLine (declaration.takeWhile fun c => !(c == '{' || c == ';'))

example : label "class A extends B \x7b int x; \x7d".toList = "class A extends B".toList := by
  decide

end DocMarkdown
