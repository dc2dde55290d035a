import DocMarkdown.Text.Blank

/-!
# Cutting texts at marks

A text is cut at the first place where a mark stands. A mark is given by a function that drops it
from the front of a text and answers `none` where it does not stand, so that exact marks and marks
in either letter case are cut at alike.

## Main definitions

* `Text.cutWith` — the text before the first mark and the text after it
* `Text.cut` — the same for an exact mark
* `Text.dropFolded?` — drops a mark from the front, in either letter case
* `Text.replaceWith` — puts one text in the place of every mark
* `Text.pieces` — the pieces of a text between separators
* `Text.lines`, `Text.unlines` — a text and its lines

## Main results

* `eq_of_cut` — cutting loses the mark and nothing else
* `length_lt_of_cutWith` — the text after a mark is shorter than the text cut
* `unlines_lines` — joining the lines of a text gives it back
-/

namespace DocMarkdown.Text

/-- Cuts a text at the first place where `next` accepts: the text before that place, and what
`next` leaves of the rest. -/
def cutWith (next : Text → Option Text) : Text → Option (Text × Text)
  | [] => none
  | c :: rest =>
    match next (c :: rest) with
    | some after => some ([], after)
    | none => (cutWith next rest).map fun (before, after) => (c :: before, after)

/-- Cuts a text at the first place where `mark` stands. -/
def cut (mark : Text) : Text → Option (Text × Text) := cutWith (mark.isPrefixOf? ·)

/-- Drops `mark`, given in small letters, from the front of a text that spells it in either letter
case. Only the letters of ASCII have two cases here. -/
def dropFolded? : (mark : Text) → Text → Option Text
  | [], t => some t
  | _ :: _, [] => none
  | m :: mark, c :: t => if c.toLower = m then dropFolded? mark t else none

/-- A function on texts that leaves a shorter text whenever it accepts. -/
def Shortens (next : Text → Option Text) : Prop :=
  ∀ t rest, next t = some rest → rest.length < t.length

theorem length_lt_of_cutWith {next : Text → Option Text} (shortens : Shortens next) :
    ∀ {t before after : Text}, cutWith next t = some (before, after) → after.length < t.length
  | [], _, _, h => by simp [cutWith] at h
  | c :: rest, before, after, h => by
    rw [cutWith] at h
    split at h
    · next found =>
      simp only [Option.some.injEq, Prod.mk.injEq] at h
      exact h.2 ▸ shortens _ _ found
    · simp only [Option.map_eq_some_iff, Prod.mk.injEq, Prod.exists] at h
      obtain ⟨front, back, cutRest, -, rfl⟩ := h
      have := length_lt_of_cutWith shortens cutRest
      simp only [List.length_cons]
      omega

theorem eq_append_of_isPrefixOf? {mark t rest : Text} (h : mark.isPrefixOf? t = some rest) :
    t = mark ++ rest := by
  induction mark generalizing t with
  | nil => exact Option.some.inj h
  | cons m mark ih =>
    cases t with
    | nil => nomatch h
    | cons c t =>
      have step : (if m == c then mark.isPrefixOf? t else none) = some rest := h
      split at step
      · next same => rw [eq_of_beq same, List.cons_append, ← ih step]
      · simp at step

theorem shortens_isPrefixOf? {mark : Text} (nonempty : mark ≠ []) :
    Shortens (mark.isPrefixOf? ·) := by
  intro t rest h
  rw [eq_append_of_isPrefixOf? h, List.length_append]
  have := List.length_pos_iff.mpr nonempty
  omega

theorem length_add_of_dropFolded? {mark t rest : Text} (h : dropFolded? mark t = some rest) :
    mark.length + rest.length = t.length := by
  induction mark generalizing t with
  | nil => simp_all [dropFolded?]
  | cons m mark ih =>
    cases t with
    | nil => simp [dropFolded?] at h
    | cons c t =>
      rw [dropFolded?] at h
      split at h
      · have := ih h
        simp only [List.length_cons]
        omega
      · simp at h

theorem shortens_dropFolded? {mark : Text} (nonempty : mark ≠ []) :
    Shortens (dropFolded? mark) := by
  intro t rest h
  have := length_add_of_dropFolded? h
  have := List.length_pos_iff.mpr nonempty
  omega

/-- Cutting loses the mark and nothing else. -/
theorem eq_of_cut {mark t before after : Text} (h : cut mark t = some (before, after)) :
    t = before ++ mark ++ after := by
  induction t generalizing before with
  | nil => simp [cut, cutWith] at h
  | cons c rest ih =>
    rw [cut, cutWith] at h
    split at h
    · next found =>
      simp only [Option.some.injEq, Prod.mk.injEq] at h
      obtain ⟨rfl, rfl⟩ := h
      exact eq_append_of_isPrefixOf? found
    · simp only [Option.map_eq_some_iff, Prod.mk.injEq, Prod.exists] at h
      obtain ⟨front, back, cutRest, rfl, rfl⟩ := h
      rw [ih cutRest]
      simp

/-- The text after a mark is shorter than the text cut. -/
theorem length_lt_of_cut {mark t before after : Text} (nonempty : mark ≠ [])
    (h : cut mark t = some (before, after)) : after.length < t.length :=
  length_lt_of_cutWith (shortens_isPrefixOf? nonempty) h

/-- Puts `new` in the place of every mark, from the front of the text to its end. -/
def replaceWith (next : Text → Option Text) (shortens : Shortens next) (new t : Text) : Text :=
  match _cut : cutWith next t with
  | none => t
  | some (before, after) => before ++ new ++ replaceWith next shortens new after
termination_by t.length
decreasing_by exact length_lt_of_cutWith shortens _cut

/-- The pieces of a text between the places where `separator` stands, at least one. -/
def pieces (separator : Char) : Text → List Text
  | [] => [[]]
  | c :: rest =>
    if c = separator then [] :: pieces separator rest
    else (pieces separator rest).modifyHead (c :: ·)

/-- The lines of a text: the pieces between its line feeds. -/
def lines (t : Text) : List Text := pieces '\n' t

/-- Joins lines by line feeds. -/
def unlines (ls : List Text) : Text := ['\n'].intercalate ls

theorem pieces_ne_nil (separator : Char) : ∀ t : Text, pieces separator t ≠ []
  | [] => by simp [pieces]
  | c :: rest => by
    rw [pieces]
    split
    · simp
    · cases h : pieces separator rest with
      | nil => exact absurd h (pieces_ne_nil separator rest)
      | cons piece others => simp

/-- Joining the pieces of a text by their separator gives it back. -/
theorem intercalate_pieces (separator : Char) (t : Text) :
    [separator].intercalate (pieces separator t) = t := by
  induction t with
  | nil => rfl
  | cons c rest ih =>
    rw [pieces]
    cases h : pieces separator rest with
    | nil => exact absurd h (pieces_ne_nil separator rest)
    | cons piece others =>
      rw [h] at ih
      split
      · next same =>
        subst same
        simpa [List.intercalate, List.intersperse] using ih
      · cases others with
        | nil => simpa [List.intercalate] using ih
        | cons other others => simpa [List.intercalate, List.intersperse] using ih

/-- Joining the lines of a text gives it back. -/
theorem unlines_lines (t : Text) : unlines (lines t) = t := intercalate_pieces '\n' t

end DocMarkdown.Text
