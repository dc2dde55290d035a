import DocMarkdown.Proofs.Comment.Reading

/-!
# What lines of each kind look like

A line of a comment is spelled out from left to right: its indentation, the marker, a margin, and
what follows the margin. Each line is spelled in one way only, and the kind that it is read as is the
one that it spells.

## Main definitions

* `IsMargin` — a text of indenting characters
* `Line.Spells` — how lines of each kind are spelled

## Main results

* `Line.spells_iff` — a line is read as the kind that it spells
* `Line.ofBody_append_marker` — in a body, too, if anything visible follows the marker
-/

namespace DocMarkdown

variable {margin line marked t rest : Text} {p : Char → Bool}

/-! ### Margins -/

/-- What fulfils a condition is taken up to the first character that does not. -/
theorem Text.takeWhile_append_of_stops (holds : ∀ c ∈ t, p c = true)
    (stops : ∀ c ∈ rest.head?, p c = false) : (t ++ rest).takeWhile p = t := by
  rw [List.takeWhile_append_of_pos holds]
  cases rest with
  | nil => simp
  | cons c rest => simp [stops c rfl]

theorem Text.dropWhile_append_of_stops (holds : ∀ c ∈ t, p c = true)
    (stops : ∀ c ∈ rest.head?, p c = false) : (t ++ rest).dropWhile p = rest := by
  rw [List.dropWhile_append_of_pos holds]
  cases rest with
  | nil => rfl
  | cons c rest => simp [stops c rfl]

theorem Text.stops_dropWhile (p : Char → Bool) (t : Text) :
    ∀ c ∈ (t.dropWhile p).head?, p c = false := by
  intro c first
  have := List.head?_dropWhile_not p t
  rw [Option.mem_def.mp first] at this
  exact this

/-- A text of indenting characters. -/
def IsMargin (t : Text) : Prop := ∀ c ∈ t, Text.isIndent c = true

theorem isMargin_takeWhile (t : Text) : IsMargin (t.takeWhile Text.isIndent) :=
  fun _ member => List.mem_takeWhile_imp member

theorem IsMargin.blank (h : IsMargin margin) : Text.blank margin = true :=
  List.all_eq_true.mpr fun c member => Text.isBlank_of_isIndent (h c member)

namespace Line

/-- How lines of each kind are spelled. -/
inductive Spells : Line → Text → Prop
  /-- Letters after `@` are the key of a tag, up to anything else. -/
  | tag {indent margin key value : Text} (outer : IsMargin indent) (inner : IsMargin margin)
      (nonempty : key ≠ []) (letters : ∀ c ∈ key, c.isAlpha = true)
      (ends : ∀ c ∈ value.head?, c.isAlpha = false) :
      Spells (.tag key value) (indent ++ marker :: (margin ++ '@' :: (key ++ value)))
  /-- No letter follows `@`. -/
  | close {indent margin rest : Text} (outer : IsMargin indent) (inner : IsMargin margin)
      (ends : ∀ c ∈ rest.head?, c.isAlpha = false) :
      Spells .close (indent ++ marker :: (margin ++ '@' :: rest))
  /-- Prose stands behind a margin, and does not begin with `@`. -/
  | prose {indent margin text : Text} (outer : IsMargin indent) (inner : IsMargin margin)
      (apart : margin ≠ []) (begins : ∀ c ∈ text.head?, Text.isIndent c = false ∧ c ≠ '@')
      (visible : Text.blank text = false) :
      Spells (.prose text) (indent ++ marker :: (margin ++ text))
  /-- A line goes on without the marker. -/
  | bare {indent rest : Text} (outer : IsMargin indent)
      (begins : ∀ c ∈ rest.head?, Text.isIndent c = false ∧ c ≠ marker) :
      Spells .void (indent ++ rest)
  /-- A text is glued to the marker. -/
  | glued {indent text : Text} (outer : IsMargin indent)
      (begins : ∀ c ∈ text.head?, Text.isIndent c = false ∧ c ≠ '@') :
      Spells .void (indent ++ marker :: text)
  /-- Nothing visible follows the marker. -/
  | empty {indent rest : Text} (outer : IsMargin indent) (blank : Text.blank rest = true) :
      Spells .void (indent ++ marker :: rest)

/-! ### Reading what is spelled -/

theorem dropWhile_append_marker {indent : Text} (outer : IsMargin indent) :
    (indent ++ marker :: marked).dropWhile Text.isIndent = marker :: marked :=
  Text.dropWhile_append_of_stops outer (by simp [marker, Text.isIndent])

theorem ofText_append_marker {indent : Text} (outer : IsMargin indent) :
    ofText (indent ++ marker :: marked) = ofMarked marked :=
  ofText_of_marker (dropWhile_append_marker outer)

/-- Behind the marker anything visible says what the line is, also in a body. -/
theorem ofBody_append_marker {indent : Text} (outer : IsMargin indent)
    (visible : Text.blank marked = false) :
    ofBody (indent ++ marker :: marked) = ofText (indent ++ marker :: marked) := by
  have left : (indent ++ marker :: marked).dropWhile Text.isIndent = marker :: marked :=
    dropWhile_append_marker outer
  rw [ofBody_of_marker left, ofText_of_marker left, visible]
  rfl

/-- A blank text after the marker is void: it cannot hold the `@` of a tag. -/
theorem ofMarked_of_blank (blank : Text.blank marked = true) : ofMarked marked = void := by
  have left : ∀ c ∈ marked.dropWhile Text.isIndent, Text.isBlank c = true := fun c member =>
    Text.blank_iff.mp blank c (List.dropWhile_subset _ member)
  rw [ofMarked_of_no_at, Text.blank_iff.mpr left, Bool.or_true, if_pos rfl]
  intro first
  exact absurd (left '@' (List.mem_of_mem_head? first)) (by decide)

/-- Behind a margin what does not begin with `@` is prose, if there is a margin and something to
read. -/
theorem ofMarked_margin_append {text : Text} (inner : IsMargin margin)
    (begins : ∀ c ∈ text.head?, Text.isIndent c = false ∧ c ≠ '@') :
    ofMarked (margin ++ text) =
      if margin.isEmpty || Text.blank text then void else prose text := by
  have stops : ∀ c ∈ text.head?, Text.isIndent c = false := fun c first => (begins c first).1
  have left := Text.dropWhile_append_of_stops inner stops
  have noAt : ((margin ++ text).dropWhile Text.isIndent).head? ≠ some '@' := by
    rw [left]
    exact fun first => (begins '@' first).2 rfl
  rw [ofMarked_of_no_at noAt, left, Text.takeWhile_append_of_stops inner stops]

/-- A line is read as what it spells. -/
theorem Spells.ofText_eq {kind : Line} (spells : Spells kind line) : ofText line = kind := by
  have noIndent : ∀ {rest : Text}, ∀ c ∈ ('@' :: rest).head?, Text.isIndent c = false := by
    simp [Text.isIndent]
  cases spells with
  | tag outer inner nonempty letters ends =>
    rw [ofText_append_marker outer, ofMarked_of_at (Text.dropWhile_append_of_stops inner noIndent),
      Text.takeWhile_append_of_stops letters ends, Text.dropWhile_append_of_stops letters ends,
      List.isEmpty_eq_false_iff.mpr nonempty]
    rfl
  | @close indent margin rest outer inner ends =>
    have noKey : rest.takeWhile Char.isAlpha = [] :=
      Text.takeWhile_append_of_stops (t := []) (by simp) ends
    rw [ofText_append_marker outer, ofMarked_of_at (Text.dropWhile_append_of_stops inner noIndent),
      noKey]
    rfl
  | prose outer inner apart begins visible =>
    rw [ofText_append_marker outer, ofMarked_margin_append inner begins, visible,
      List.isEmpty_eq_false_iff.mpr apart]
    rfl
  | @bare indent rest outer begins =>
    have left := Text.dropWhile_append_of_stops outer fun c first => (begins c first).1
    refine ofText_of_no_marker ?_
    rw [left]
    exact fun first => (begins marker first).2 rfl
  | glued outer begins =>
    have noMargin : IsMargin [] := List.forall_mem_nil _
    exact (ofText_append_marker outer).trans (ofMarked_margin_append noMargin begins)
  | empty outer blank => rw [ofText_append_marker outer, ofMarked_of_blank blank]

/-- After `@` a key is spelled, or no letter follows. -/
theorem spells_of_at {indent : Text} (outer : IsMargin indent) (inner : IsMargin margin)
    (left : marked.dropWhile Text.isIndent = '@' :: rest) :
    Spells (ofMarked marked) (indent ++ marker :: (margin ++ '@' :: rest)) := by
  have stops := Text.stops_dropWhile Char.isAlpha rest
  have whole := List.takeWhile_append_dropWhile (p := Char.isAlpha) (l := rest)
  rw [ofMarked_of_at left]
  split
  · next noKey =>
    rw [List.isEmpty_iff.mp noKey, List.nil_append] at whole
    exact .close outer inner (whole ▸ stops)
  · next key =>
    have spells := Spells.tag outer inner (mt List.isEmpty_iff.mpr key)
      (fun c member => List.mem_takeWhile_imp member) stops
    rwa [whole] at spells

/-- What follows the marker spells the kind that it is read as. -/
theorem spells_ofMarked {indent : Text} (outer : IsMargin indent) (marked : Text) :
    Spells (ofMarked marked) (indent ++ marker :: marked) := by
  have inner := isMargin_takeWhile marked
  have stops := Text.stops_dropWhile Text.isIndent marked
  have whole := List.takeWhile_append_dropWhile (p := Text.isIndent) (l := marked)
  by_cases first : (marked.dropWhile Text.isIndent).head? = some '@'
  · obtain ⟨rest, left⟩ := List.head?_eq_some_iff.mp first
    have spells := spells_of_at outer inner left
    rwa [← left, whole] at spells
  · have begins : ∀ c ∈ (marked.dropWhile Text.isIndent).head?,
        Text.isIndent c = false ∧ c ≠ '@' := by
      rintro c found
      exact ⟨stops c found, by rintro rfl; exact first found⟩
    rw [ofMarked_of_no_at first]
    split
    · next nothing =>
      rcases Bool.or_eq_true_iff.mp nothing with glued | blank
      · rw [List.isEmpty_iff.mp glued, List.nil_append] at whole
        exact .glued outer (whole ▸ begins)
      · refine .empty outer ?_
        rw [← whole, Text.blank_append, inner.blank, blank]
        rfl
    · next something =>
      simp only [Bool.or_eq_true, not_or, Bool.not_eq_true] at something
      have spells := Spells.prose outer inner (List.isEmpty_eq_false_iff.mp something.1) begins
        something.2
      rwa [whole] at spells

/-- Every line spells the kind that it is read as. -/
theorem spells_ofText (line : Text) : Spells (ofText line) line := by
  have outer := isMargin_takeWhile line
  have stops := Text.stops_dropWhile Text.isIndent line
  have whole := List.takeWhile_append_dropWhile (p := Text.isIndent) (l := line)
  by_cases first : (line.dropWhile Text.isIndent).head? = some marker
  · obtain ⟨marked, left⟩ := List.head?_eq_some_iff.mp first
    have spells := spells_ofMarked outer marked
    rwa [← ofText_of_marker left, ← left, whole] at spells
  · have spells : Spells .void (line.takeWhile Text.isIndent ++ line.dropWhile Text.isIndent) :=
      .bare outer fun c found => ⟨stops c found, by rintro rfl; exact first found⟩
    rwa [whole, ← ofText_of_no_marker first] at spells

/-- A line is read as a kind if and only if it spells this kind. -/
theorem spells_iff {kind : Line} : Spells kind line ↔ ofText line = kind :=
  ⟨Spells.ofText_eq, fun same => same ▸ spells_ofText line⟩

instance {kind : Line} : Decidable (Spells kind line) := decidable_of_iff _ spells_iff.symm

end Line

end DocMarkdown
