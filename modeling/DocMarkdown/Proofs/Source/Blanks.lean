import DocMarkdown.Proofs.Source.Grammar
import DocMarkdown.Proofs.Text.Trimming

/-!
# The blanks of a source text

Comments are found by marks, and fragments end at characters, none of which is blank. So a function
that acts on blanks only may be applied to a whole source text or to the parts of its blocks: the
same comments are found, in front of the same declarations.

## Main definitions

* `Block.map`, `Source.map` — a function on texts applied to every part

## Main results

* `ofText_comm` — the parts of the changed text are the changed parts of the text
* `beginsImport_iff` — import statements stay import statements
* `documentedIn_comm` — what the changed text documents
-/

namespace DocMarkdown

variable {f : Text → Text}

namespace Block

variable {b : Block} {c : Char} {fragment rest t : Text}

/-- A block with a function applied to each of its parts. -/
def map (f : Text → Text) (b : Block) : Block := ⟨f b.gap, f b.body, f b.fragment⟩

theorem not_isBlank_of_endsFragment (h : endsFragment c = true) : Text.isBlank c = false := by
  simp only [endsFragment, Bool.or_eq_true, beq_iff_eq] at h
  rcases h with (rfl | rfl) | rfl <;> decide

theorem opening_visible : ∀ c ∈ opening, Text.isBlank c = false :=
  List.forall_iff_forall_mem.mp ⟨rfl, rfl, rfl⟩

theorem closing_visible : ∀ c ∈ closing, Text.isBlank c = false :=
  List.forall_iff_forall_mem.mp ⟨rfl, rfl⟩

theorem Delimited.map (h : b.Delimited) (acts : Text.ActsOnBlanks f) : (b.map f).Delimited where
  gap := mt (acts.infix_iff opening_ne_nil opening_visible).mp h.gap
  body := mt (acts.infix_iff closing_ne_nil closing_visible).mp h.body
  fragment c hc := by
    by_cases ends : endsFragment c = true
    · -- A character that ends fragments is not blank, so it was in the fragment before.
      have inside : c ∈ b.fragment := (acts.mem_iff (not_isBlank_of_endsFragment ends)).mp hc
      exact h.fragment c inside
    · exact Bool.eq_false_iff.mpr ends

theorem Follows.map (h : Follows rest) (acts : Text.ActsOnBlanks f) : Follows (f rest) := by
  cases rest with
  | nil => rwa [acts.nil]
  | cons c rest =>
    rw [acts.cons (not_isBlank_of_endsFragment (h c rfl))]
    exact h

theorem IsTail.map (h : IsTail t) (acts : Text.ActsOnBlanks f) : IsTail (f t) := by
  rcases h with free | ⟨before, after, rfl, first, unclosed⟩
  · exact Or.inl (mt (acts.infix_iff opening_ne_nil opening_visible).mp free)
  · refine Or.inr ⟨f before, f after, ?_, ?_, ?_⟩
    · exact acts.append_mark_append opening_ne_nil opening_visible
    · exact mt (acts.infix_iff opening_ne_nil opening_visible).mp first
    · exact mt (acts.infix_iff closing_ne_nil closing_visible).mp unclosed

/-- A fragment and what follows it are worked on apart. -/
theorem map_fragment_append (acts : Text.ActsOnBlanks f) (follows : Follows rest) :
    f (fragment ++ rest) = f fragment ++ f rest := by
  cases rest with
  | nil => simp [acts.nil]
  | cons c rest =>
    have visible := not_isBlank_of_endsFragment (follows c rfl)
    rw [acts.append_cons visible, acts.cons visible]

theorem text_map_append (acts : Text.ActsOnBlanks f) (follows : Follows rest) :
    (b.map f).text ++ f rest = f (b.text ++ rest) := by
  have cutOpening : b.text ++ rest =
      b.gap ++ opening ++ (b.body ++ closing ++ (b.fragment ++ rest)) := by
    simp [text]
  rw [cutOpening, acts.append_mark_append opening_ne_nil opening_visible,
    acts.append_mark_append closing_ne_nil closing_visible, map_fragment_append acts follows]
  simp [text, map]

end Block

namespace Source

variable {s : Source} {code : Text}

/-- A source text with a function applied to each part of its blocks and to its tail. -/
def map (f : Text → Text) (s : Source) : Source := ⟨s.blocks.map (Block.map f), f s.tail⟩

theorem text_map (h : s.Grammatical) (acts : Text.ActsOnBlanks f) : (s.map f).text = f s.text := by
  induction h with
  | tail _ => rfl
  | @block b blocks t _ follows _ ih =>
    have split : (map f ⟨b :: blocks, t⟩).text = (b.map f).text ++ (map f ⟨blocks, t⟩).text :=
      text_cons _ _ _
    rw [split, ih, Block.text_map_append acts follows, text_cons]

theorem Grammatical.map (h : s.Grammatical) (acts : Text.ActsOnBlanks f) :
    (s.map f).Grammatical := by
  induction h with
  | tail isTail => exact .tail (isTail.map acts)
  | block delimited follows others ih =>
    refine .block (delimited.map acts) ?_ ih
    have := text_map others acts
    rw [Source.map] at this
    rw [this]
    exact follows.map acts

/-- The parts of the changed text are the changed parts of the text. -/
theorem ofText_comm (acts : Text.ActsOnBlanks f) (code : Text) :
    ofText (f code) = (ofText code).map f := by
  have grammatical := grammatical_ofText code
  -- The changed text is made up by the changed parts, and these keep to the grammar.
  have whole : f code = ((ofText code).map f).text := by
    rw [text_map grammatical acts, text_ofText]
  rw [whole, ofText_text (grammatical.map acts)]

end Source

/-- Import statements stay import statements, and nothing else becomes one. -/
theorem beginsImport_iff (acts : Text.ActsOnBlanks f) {t : Text} :
    BeginsImport (f t) ↔ BeginsImport t := by
  have visible : ∀ c ∈ "import".toList, Text.isBlank c = false :=
    List.forall_iff_forall_mem.mp ⟨rfl, rfl, rfl, rfl, rfl, rfl⟩
  -- The word is a mark without blanks, and nothing stands in front of it.
  have split : ∀ rest : Text, f ("import".toList ++ rest) = "import".toList ++ f rest := by
    intro rest
    have := acts.append_mark_append (a := []) (b := rest) (by decide : "import".toList ≠ []) visible
    rwa [acts.nil] at this
  constructor
  · rintro ⟨d, u, hd, same⟩
    obtain ⟨rest, rfl⟩ := (acts.prefix_iff visible).mp ⟨d :: u, same.symm⟩
    rw [split, List.append_cancel_left_eq] at same
    cases rest with
    | nil => simp [acts.nil] at same
    | cons c rest =>
      by_cases hc : Text.isBlank c = true
      · exact ⟨c, rest, hc, rfl⟩
      · -- A visible character would still stand after the word.
        rw [acts.cons (Bool.eq_false_iff.mpr hc), List.cons.injEq] at same
        rw [same.1] at hc
        exact absurd hd hc
  · rintro ⟨c, rest, hc, rfl⟩
    obtain ⟨d, u, hd, same⟩ := acts.exists_blank_cons (t := rest) hc
    exact ⟨d, u, hd, by rw [split, same]⟩

/-- The changed text documents the same declarations by the same comments, changed. -/
theorem documentedIn_comm (acts : Text.ActsOnBlanks f) (code : Text) :
    documentedIn (f code) =
      ((Source.ofText code).blocks.filter fun b => ¬ BeginsImport (Text.trim b.fragment)).map
        fun b => ⟨f (Text.trim b.fragment), markParagraphs (f b.body)⟩ := by
  rw [documentedIn, Source.ofText_comm acts, filterMap_ofBlock?]
  simp only [Source.map, Block.map, List.filter_map, List.map_map, Function.comp_def,
    acts.trim_comm, beginsImport_iff acts]

end DocMarkdown
