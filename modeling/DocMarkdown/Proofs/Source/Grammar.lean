import DocMarkdown.Proofs.Text.Marks
import DocMarkdown.Source.Documented
import Mathlib.Data.List.TakeWhile

/-!
# The grammar of source texts

A source text is a sequence of blocks and a tail. This file says what blocks and tails are without
looking for anything: which texts may stand before, in and after a comment, and what may follow a
block. Every text is written in exactly one way by this grammar, and that way is the one that
`Source.ofText` finds. So whatever is known of how a text is written says what it documents.

## Main definitions

* `Block.Delimited` — the parts of a block keep to its marks
* `Block.IsTail` — a text that holds no complete comment
* `Source.Grammatical` — blocks and a tail in the places the grammar has for them
* `BeginsImport` — an import statement, as a shape of text

## Main results

* `next?_eq_some_iff`, `next?_eq_none_iff` — when a text has a first block, and which
* `ofText_text` — blocks and a tail are found again in the text they make up
* `documentedIn_comment_append` — a comment at the front of a text and what follows it
* `existsUnique_grammatical` — every text is written in one way, which says what it documents
-/

namespace DocMarkdown

namespace Block

variable {b : Block} {code rest before after : Text}

/-- The parts of a block keep to its marks: no comment opens in the gap, the body does not hold the
closing mark, and the fragment holds no character that ends it. -/
structure Delimited (b : Block) : Prop where
  gap : ¬ opening <:+: b.gap
  body : ¬ closing <:+: b.body
  fragment : ∀ c ∈ b.fragment, endsFragment c = false

/-- What may follow a block: a character that ends its fragment, or nothing. -/
def Follows (rest : Text) : Prop := ∀ c ∈ rest.head?, endsFragment c = true

/-- A text that holds no complete comment: none opens in it, or the first that opens is never
closed. -/
def IsTail (t : Text) : Prop :=
  ¬ opening <:+: t ∨
    ∃ before after, t = before ++ opening ++ after ∧ ¬ opening <:+: before ∧ ¬ closing <:+: after

theorem opening_ne_nil : opening ≠ [] := List.cons_ne_nil _ _

theorem closing_ne_nil : closing ≠ [] := List.cons_ne_nil _ _

theorem cut_opening_eq_some_iff :
    Text.cut opening code = some (before, after) ↔
      code = before ++ opening ++ after ∧ ¬ opening <:+: before :=
  Text.cut_eq_some_iff (by decide)

theorem cut_closing_eq_some_iff :
    Text.cut closing code = some (before, after) ↔
      code = before ++ closing ++ after ∧ ¬ closing <:+: before :=
  Text.cut_eq_some_iff (by decide)

theorem cut_opening_eq_none_iff : Text.cut opening code = none ↔ ¬ opening <:+: code :=
  Text.cut_eq_none_iff opening_ne_nil

theorem cut_closing_eq_none_iff : Text.cut closing code = none ↔ ¬ closing <:+: code :=
  Text.cut_eq_none_iff closing_ne_nil

/-- A fragment is taken up to the first character that ends it. -/
theorem takeWhile_fragment {fragment : Text} (h : ∀ c ∈ fragment, endsFragment c = false)
    (follows : Follows rest) :
    (fragment ++ rest).takeWhile (!endsFragment ·) = fragment ∧
      (fragment ++ rest).dropWhile (!endsFragment ·) = rest := by
  have inside : ∀ c ∈ fragment, (!endsFragment c) = true := by
    intro c hc
    rw [h c hc]
    rfl
  rw [List.takeWhile_append_of_pos inside, List.dropWhile_append_of_pos inside]
  cases rest with
  | nil => simp
  | cons c rest => simp [follows c rfl]

theorem follows_dropWhile (t : Text) : Follows (t.dropWhile (!endsFragment ·)) := by
  intro c hc
  have := List.head?_dropWhile_not (!endsFragment ·) t
  rw [Option.mem_def.mp hc] at this
  simpa using this

/-- Without an opening mark there is no block. -/
theorem next?_of_none (h : Text.cut opening code = none) : next? code = none := by
  rw [next?, h]
  rfl

/-- After an opening mark it is the closing mark that makes the block. -/
theorem next?_of_some (h : Text.cut opening code = some (before, after)) :
    next? code = (Text.cut closing after).map fun (body, closed) =>
      (⟨before, body, closed.takeWhile (!endsFragment ·)⟩, closed.dropWhile (!endsFragment ·)) := by
  simp only [next?, h, Option.bind_eq_bind, Option.bind_some]
  cases Text.cut closing after with
  | none => rfl
  | some cutAt => rfl

/-- The first block of a text is the one that keeps to its marks and has its fragment ended. -/
theorem next?_eq_some_iff :
    next? code = some (b, rest) ↔ b.Delimited ∧ Follows rest ∧ code = b.text ++ rest := by
  constructor
  · intro h
    have whole := eq_of_next? h
    cases cutOpening : Text.cut opening code with
    | none => simp [next?_of_none cutOpening] at h
    | some cutAt =>
      obtain ⟨gap, opened⟩ := cutAt
      rw [next?_of_some cutOpening, Option.map_eq_some_iff] at h
      obtain ⟨⟨body, closed⟩, cutClosing, found⟩ := h
      obtain ⟨rfl, rfl⟩ := Prod.mk.inj found
      -- Each part keeps to its mark because it was cut at the first place where the mark stands.
      refine ⟨⟨(cut_opening_eq_some_iff.mp cutOpening).2,
        (cut_closing_eq_some_iff.mp cutClosing).2, ?_⟩, follows_dropWhile closed, whole⟩
      intro c hc
      simpa using List.mem_takeWhile_imp hc
  · rintro ⟨delimited, follows, rfl⟩
    obtain ⟨gap, body, fragment⟩ := b
    -- A text has one cut whose first part is free of the mark, and the block is one for each mark.
    have cutOpening : Text.cut opening (text ⟨gap, body, fragment⟩ ++ rest) =
        some (gap, body ++ closing ++ (fragment ++ rest)) :=
      cut_opening_eq_some_iff.mpr ⟨by simp [text], delimited.gap⟩
    have cutClosing : Text.cut closing (body ++ closing ++ (fragment ++ rest)) =
        some (body, fragment ++ rest) :=
      cut_closing_eq_some_iff.mpr ⟨rfl, delimited.body⟩
    obtain ⟨taken, left⟩ := takeWhile_fragment delimited.fragment follows
    rw [next?_of_some cutOpening, cutClosing, Option.map_some]
    dsimp only at taken ⊢
    rw [taken, left]

/-- A text without a block is a tail. -/
theorem next?_eq_none_iff : next? code = none ↔ IsTail code := by
  cases cutOpening : Text.cut opening code with
  | none =>
    have absent := cut_opening_eq_none_iff.mp cutOpening
    exact iff_of_true (next?_of_none cutOpening) (Or.inl absent)
  | some cutAt =>
    obtain ⟨gap, opened⟩ := cutAt
    obtain ⟨whole, first⟩ := cut_opening_eq_some_iff.mp cutOpening
    rw [next?_of_some cutOpening, Option.map_eq_none_iff, cut_closing_eq_none_iff]
    constructor
    · intro unclosed
      exact Or.inr ⟨gap, opened, whole, first, unclosed⟩
    · rintro (absent | ⟨before, after, same, free, unclosed⟩)
      · exact absurd ⟨gap, opened, whole.symm⟩ absent
      · -- The first opening mark stands in one place only.
        have cutAgain := cut_opening_eq_some_iff.mpr ⟨same, free⟩
        rw [cutOpening, Option.some.injEq, Prod.mk.injEq] at cutAgain
        rwa [cutAgain.2]

end Block

namespace Source

variable {b : Block} {blocks : List Block} {code rest tail : Text} {s : Source}

/-- Blocks and a tail in the places that the grammar of source texts has for them. -/
inductive Grammatical : Source → Prop
  | tail {t : Text} (isTail : Block.IsTail t) : Grammatical ⟨[], t⟩
  | block {b : Block} {blocks : List Block} {t : Text} (delimited : b.Delimited)
      (follows : Block.Follows (text ⟨blocks, t⟩)) (others : Grammatical ⟨blocks, t⟩) :
      Grammatical ⟨b :: blocks, t⟩

@[simp] theorem text_nil (t : Text) : text ⟨[], t⟩ = t := rfl

@[simp] theorem text_cons (b : Block) (blocks : List Block) (t : Text) :
    text ⟨b :: blocks, t⟩ = b.text ++ text ⟨blocks, t⟩ := by
  simp [text]

theorem ofText_of_none (h : Block.next? code = none) : ofText code = ⟨[], code⟩ := by
  rw [ofText]
  split
  · rfl
  · next found => simp [h] at found

theorem ofText_of_some (h : Block.next? code = some (b, rest)) :
    ofText code = ⟨b :: (ofText rest).blocks, (ofText rest).tail⟩ := by
  rw [ofText]
  split
  · next found => simp [h] at found
  · next found =>
    rw [h, Option.some.injEq, Prod.mk.injEq] at found
    obtain ⟨rfl, rfl⟩ := found
    rfl

/-- What is found in a text keeps to the grammar. -/
theorem grammatical_ofText (code : Text) : (ofText code).Grammatical := by
  fun_induction ofText code with
  | case1 code h => exact .tail (Block.next?_eq_none_iff.mp h)
  | case2 code b rest h _ ih =>
    obtain ⟨delimited, follows, -⟩ := Block.next?_eq_some_iff.mp h
    exact .block delimited (by rwa [← text_ofText rest] at follows) ih

/-- Blocks and a tail that keep to the grammar are found again in the text they make up. -/
theorem ofText_text (h : s.Grammatical) : ofText s.text = s := by
  induction h with
  | tail isTail => exact ofText_of_none (Block.next?_eq_none_iff.mpr isTail)
  | block delimited follows _ ih =>
    rw [ofText_of_some (Block.next?_eq_some_iff.mpr ⟨delimited, follows, text_cons _ _ _⟩), ih]

end Source

/-- An import statement, as a shape of text: the word, a blank, and anything. -/
def BeginsImport (declaration : Text) : Prop :=
  ∃ c rest, Text.isBlank c = true ∧ declaration = "import".toList ++ c :: rest

theorem isImport_iff {declaration : Text} :
    isImport declaration = true ↔ BeginsImport declaration := by
  constructor
  · intro h
    rw [isImport] at h
    split at h
    · next c rest found =>
      exact ⟨c, rest, h, (List.isPrefixOf?_eq_some_iff_append_eq.mp found).symm⟩
    · cases h
  · rintro ⟨c, rest, blank, rfl⟩
    rw [isImport, List.isPrefixOf?_eq_some_iff_append_eq.mpr rfl]
    exact blank

instance : DecidablePred BeginsImport := fun _ => decidable_of_iff _ isImport_iff

/-- Every block documents its trimmed fragment, but for import statements. -/
theorem filterMap_ofBlock? (blocks : List Block) :
    blocks.filterMap Documented.ofBlock? =
      (blocks.filter fun b => ¬ BeginsImport (Text.trim b.fragment)).map fun b =>
        ⟨Text.trim b.fragment, markParagraphs b.body⟩ := by
  induction blocks with
  | nil => rfl
  | cons b blocks ih =>
    by_cases h : BeginsImport (Text.trim b.fragment)
    · simp [Documented.ofBlock?, isImport_iff.mpr h, h, ih]
    · have := mt isImport_iff.mp h
      simp [Documented.ofBlock?, this, h, ih]

/-- A comment at the front of a text documents what follows it up to the end of the fragment. -/
theorem documentedIn_comment_append {body : Text} (unclosed : ¬ Block.closing <:+: body)
    (rest : Text) :
    documentedIn (Block.opening ++ body ++ Block.closing ++ rest) =
      (Documented.ofBlock? ⟨[], body, rest.takeWhile (!Block.endsFragment ·)⟩).toList ++
        documentedIn (rest.dropWhile (!Block.endsFragment ·)) := by
  have first : Block.next? (Block.opening ++ body ++ Block.closing ++ rest) =
      some (⟨[], body, rest.takeWhile (!Block.endsFragment ·)⟩,
        rest.dropWhile (!Block.endsFragment ·)) := by
    have closed : ¬ Block.opening <:+: [] := by decide
    refine Block.next?_eq_some_iff.mpr ⟨⟨closed, unclosed, ?_⟩, Block.follows_dropWhile rest, ?_⟩
    · intro c hc
      simpa using List.mem_takeWhile_imp hc
    · simp [Block.text, List.takeWhile_append_dropWhile]
  rw [documentedIn_eq, first]

/-- Every source text is written by the grammar in exactly one way, and its documented declarations
are those of the blocks of this writing, in order and without import statements. -/
theorem existsUnique_grammatical (code : Text) :
    ∃ s : Source, (s.Grammatical ∧ s.text = code) ∧
      (∀ other : Source, other.Grammatical ∧ other.text = code → other = s) ∧
      documentedIn code =
        (s.blocks.filter fun b => ¬ BeginsImport (Text.trim b.fragment)).map fun b =>
          ⟨Text.trim b.fragment, markParagraphs b.body⟩ := by
  refine ⟨.ofText code, ⟨Source.grammatical_ofText code, Source.text_ofText code⟩, ?_, ?_⟩
  · rintro other ⟨grammatical, rfl⟩
    exact (Source.ofText_text grammatical).symm
  · exact filterMap_ofBlock? _

end DocMarkdown
