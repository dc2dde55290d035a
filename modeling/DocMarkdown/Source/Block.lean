import DocMarkdown.Text.Cut

/-!
# Where doc comments stand in a source text

A source text is a sequence of blocks and a tail. A block is everything up to the next doc comment,
the comment's body, and the fragment of code that follows the comment: the start of the declaration
it documents. What the tail holds is no doc comment, or one that is never closed.

Nothing else of the source's syntax is known: a comment opens wherever its opening mark stands.

## Main definitions

* `Block` — a doc comment with the code on its two sides
* `Block.next?` — the first block of a text and what follows it
* `Source.ofText` — the blocks and the tail of a source text
* `Source.text` — the source text that blocks and a tail make up

## Main results

* `eq_of_next?` — a block and the text after it make up the text
* `Source.text_ofText` — taking a source text apart loses nothing
-/

namespace DocMarkdown

/-- A doc comment in its place: the text before it, its body between the two marks, and the
fragment of code after it. -/
structure Block where
  gap : Text
  body : Text
  fragment : Text
deriving DecidableEq, Repr

namespace Block

/-- The mark that opens a doc comment. -/
def opening : Text := ['/', '*', '*']

/-- The mark that closes a comment. -/
def closing : Text := ['*', '/']

/-- The characters that end a fragment: the start of a body, the end of a statement, and the start
of another comment. -/
def endsFragment (c : Char) : Bool := c == '{' || c == ';' || c == '/'

/-- The text that a block stands for. -/
def text (b : Block) : Text := b.gap ++ opening ++ b.body ++ closing ++ b.fragment

/-- The first block of a text and what follows it: none unless a comment is opened and closed. -/
def next? (code : Text) : Option (Block × Text) := do
  let (gap, opened) ← Text.cut opening code
  let (body, closed) ← Text.cut closing opened
  some (⟨gap, body, closed.takeWhile (!endsFragment ·)⟩, closed.dropWhile (!endsFragment ·))

/-- A block and the text after it make up the text. -/
theorem eq_of_next? {code rest : Text} {b : Block} (h : next? code = some (b, rest)) :
    code = b.text ++ rest := by
  simp only [next?, Option.bind_eq_bind, Option.bind_eq_some_iff, Option.some.injEq,
    Prod.mk.injEq] at h
  obtain ⟨⟨gap, opened⟩, cutOpening, ⟨body, closed⟩, cutClosing, rfl, rfl⟩ := h
  rw [Text.eq_of_cut cutOpening]
  have := Text.eq_of_cut cutClosing
  simp only at this
  rw [this]
  simp [text, List.takeWhile_append_dropWhile]

theorem length_lt_of_next? {code rest : Text} {b : Block} (h : next? code = some (b, rest)) :
    rest.length < code.length := by
  rw [eq_of_next? h]
  simp only [text, opening, closing, List.length_append, List.length_cons, List.length_nil]
  omega

end Block

/-- A source text taken apart: its blocks in order and what follows the last of them. -/
structure Source where
  blocks : List Block
  tail : Text
deriving DecidableEq, Repr

namespace Source

/-- The blocks and the tail of a source text. -/
def ofText (code : Text) : Source :=
  match _next : Block.next? code with
  | none => ⟨[], code⟩
  | some (block, rest) =>
    let source := ofText rest
    ⟨block :: source.blocks, source.tail⟩
termination_by code.length
decreasing_by exact Block.length_lt_of_next? _next

/-- The source text that blocks and a tail make up. -/
def text (s : Source) : Text := s.blocks.flatMap Block.text ++ s.tail

/-- Taking a source text apart loses nothing. -/
theorem text_ofText (code : Text) : (ofText code).text = code := by
  fun_induction ofText code with
  | case1 => simp [text]
  | case2 code block rest next _ ih =>
    rw [Block.eq_of_next? next]
    simpa [text] using ih

end Source

end DocMarkdown
