import DocMarkdown.Proofs.Text.Lines
import DocMarkdown.Proofs.Text.Spacing

/-!
# The margins of a text

The margins of a text are the blanks that only lay it out: the indentation of its lines, and what
stands between the last character of a line and its line feed. The first line keeps its indentation
and the last line its trailing blanks, as no line feed stands there. Indentation is made of spaces
and tabs; before a line feed a carriage return may stand among them.

## Main definitions

* `Text.dropLeading` — no indentation after line feeds
* `Text.dropTrailing` — no spaces, tabs and carriage returns before line feeds
* `Text.withoutMargins` — a text without its margins
* `Text.withCarriageReturns` — a text with a carriage return before every line feed

## Main results

* `lines_dropLeading`, `lines_dropTrailing` — what happens to the lines of a text
* `actsOnBlanks_withoutMargins` — margins are blanks
* `oneLine_withoutMargins` — margins do not matter to a text on one line
* `withoutMargins_withCarriageReturns` — carriage returns before line feeds are margins
-/

namespace DocMarkdown.Text

variable {t : Text} {c : Char}

/-- The characters that may stand between a line and its line feed. -/
def isTrailing (c : Char) : Bool := isIndent c || c == '\r'

/-- Deletes the indentation after every line feed; `atStart` says that a line feed has just been
read. -/
def dropLeading (atStart : Bool) : Text → Text
  | [] => []
  | c :: rest =>
    if atStart && isIndent c then dropLeading true rest
    else c :: dropLeading (c == '\n') rest

/-- Deletes the spaces, tabs and carriage returns before every line feed. -/
def dropTrailing : Text → Text
  | [] => []
  | c :: rest =>
    let kept := dropTrailing rest
    if isTrailing c && kept.head? == some '\n' then kept else c :: kept

/-- A text without its margins. -/
def withoutMargins (t : Text) : Text := dropTrailing (dropLeading false t)

/-- A text with a carriage return before every line feed. -/
def withCarriageReturns (t : Text) : Text :=
  t.flatMap fun c => if c == '\n' then ['\r', '\n'] else [c]

-- The first line keeps its indentation and the last its trailing blanks.
example : withoutMargins " a \t\r\n \t\n\tb\r \n  c ".toList = " a\n\nb\nc ".toList := by decide

/-! ### Margins are blanks -/

theorem isBlank_of_isTrailing (h : isTrailing c = true) : isBlank c = true := by
  rw [isTrailing, Bool.or_eq_true, beq_iff_eq] at h
  rcases h with h | rfl
  · exact isBlank_of_isIndent h
  · decide

theorem actsOnBlanks_dropLeading : ActsOnBlanks (dropLeading false) := by
  apply actsOnBlanks_of_skipping isIndent (· == '\n') (fun _ => rfl) (fun _ _ _ => rfl)
  · intro c indent
    exact isBlank_of_isIndent indent
  · intro c feed
    rw [beq_iff_eq.mp feed]
    decide

theorem actsOnBlanks_dropTrailing : ActsOnBlanks dropTrailing := by
  apply actsOnBlanks_of_dropping (fun c kept => isTrailing c && kept.head? == some '\n') rfl
    (fun _ _ => rfl)
  · intro c t dropped
    exact isBlank_of_isTrailing (Bool.and_eq_true_iff.mp dropped).1
  · intro c
    exact Bool.and_false _
  · intro x a c b hc
    cases a with
    | nil =>
      have noFeed : c ≠ '\n' := by
        rintro rfl
        exact absurd hc (by decide)
      simp [noFeed]
    | cons y a => rfl

/-- Margins are blanks, and never all that stands between two other characters. -/
theorem actsOnBlanks_withoutMargins : ActsOnBlanks withoutMargins :=
  actsOnBlanks_dropTrailing.comp actsOnBlanks_dropLeading

/-! ### What happens to the lines -/

/-- Every line but the first loses its indentation, and the first one too after a line feed. -/
theorem lines_dropLeading {l : Text} {ls : List Text} (h : lines t = l :: ls) :
    lines (dropLeading false t) = l :: ls.map (·.dropWhile isIndent) ∧
      lines (dropLeading true t) = (l :: ls).map (·.dropWhile isIndent) := by
  induction t generalizing l ls with
  | nil =>
    obtain ⟨rfl, rfl⟩ := List.cons.inj h
    exact ⟨rfl, rfl⟩
  | cons c t ih =>
    obtain ⟨first, others, same⟩ := List.exists_cons_of_ne_nil (lines_ne_nil t)
    obtain ⟨inside, atStart⟩ := ih same
    by_cases hc : c = '\n'
    · subst hc
      rw [lines_cons_feed, same] at h
      obtain ⟨rfl, rfl⟩ := List.cons.inj h
      -- A line feed is no indentation: it stays, and what follows it is at the start of a line.
      have feed : ∀ flag, dropLeading flag ('\n' :: t) = '\n' :: dropLeading true t := by
        intro flag
        simp [dropLeading, isIndent]
      rw [feed, feed, lines_cons_feed, atStart]
      exact ⟨rfl, rfl⟩
    · -- Any other character goes with the first line of the rest, unless it is indentation.
      rw [lines_cons hc same] at h
      obtain ⟨rfl, rfl⟩ := List.cons.inj h
      have kept : lines (c :: dropLeading false t) =
          (c :: first) :: others.map (·.dropWhile isIndent) := lines_cons hc inside
      have after : (c == '\n') = false := by simpa using hc
      cases indent : isIndent c with
      | false => simp [dropLeading, indent, after, kept]
      | true => simp [dropLeading, indent, after, kept, atStart]

/-- Lines without what stands before their line feeds; the last line has none. -/
def trimLines : List Text → List Text
  | [] => []
  | [l] => [l]
  | l :: next :: ls => l.rdropWhile isTrailing :: trimLines (next :: ls)

theorem trimLines_cons_ne_nil (l : Text) (ls : List Text) : trimLines (l :: ls) ≠ [] := by
  cases ls <;> simp [trimLines]

theorem rdropWhile_cons {p : Char → Bool} (l : Text) :
    (c :: l).rdropWhile p =
      if p c && (l.rdropWhile p).isEmpty then [] else c :: l.rdropWhile p := by
  rw [List.rdropWhile, List.reverse_cons, List.dropWhile_append, List.rdropWhile]
  cases h : l.reverse.dropWhile p with
  | nil => cases hc : p c <;> simp [hc]
  | cons x xs => simp

/-- A text starts with a line feed if its first line is empty and not its last. -/
theorem head?_eq_feed_iff {l : Text} {ls : List Text} (h : lines t = l :: ls) :
    t.head? = some '\n' ↔ l = [] ∧ ls ≠ [] := by
  cases t with
  | nil =>
    obtain ⟨rfl, rfl⟩ := List.cons.inj h
    simp
  | cons c t =>
    by_cases hc : c = '\n'
    · subst hc
      rw [lines_cons_feed] at h
      obtain ⟨rfl, rfl⟩ := List.cons.inj h
      simp [lines_ne_nil]
    · obtain ⟨first, others, same⟩ := List.exists_cons_of_ne_nil (lines_ne_nil t)
      rw [lines_cons hc same] at h
      obtain ⟨rfl, rfl⟩ := List.cons.inj h
      simp [hc]

/-- Every line but the last loses what stands before its line feed. -/
theorem lines_dropTrailing (t : Text) : lines (dropTrailing t) = trimLines (lines t) := by
  induction t with
  | nil => rfl
  | cons c t ih =>
    obtain ⟨first, others, same⟩ := List.exists_cons_of_ne_nil (lines_ne_nil t)
    rw [same] at ih
    by_cases hc : c = '\n'
    · subst hc
      have feed : dropTrailing ('\n' :: t) = '\n' :: dropTrailing t := by
        simp [dropTrailing, isTrailing, isIndent]
      rw [feed, lines_cons_feed, lines_cons_feed, ih, same]
      rfl
    · rw [lines_cons hc same, dropTrailing]
      cases others with
      | nil =>
        -- The last line: no line feed comes after the character.
        have after : ((dropTrailing t).head? == some '\n') = false := by
          rw [beq_eq_false_iff_ne, Ne, head?_eq_feed_iff ih]
          exact fun h => h.2 rfl
        rw [after, Bool.and_false]
        exact lines_cons hc ih
      | cons next others =>
        -- The character is next to a line feed if nothing is left of its line behind it.
        rw [trimLines] at ih
        have after : ((dropTrailing t).head? == some '\n') =
            (first.rdropWhile isTrailing).isEmpty := by
          rw [Bool.eq_iff_iff, beq_iff_eq, head?_eq_feed_iff ih, List.isEmpty_iff]
          exact and_iff_left (trimLines_cons_ne_nil next others)
        rw [trimLines, rdropWhile_cons, after]
        split
        · next dropped =>
          rw [Bool.and_eq_true, List.isEmpty_iff] at dropped
          rw [ih, dropped.2]
        · exact lines_cons hc ih

/-! ### Where margins do not matter -/

theorem unbroken_cons_of_isIndent (h : isIndent c = true) :
    unbroken (c :: t) = ' ' :: unbroken t := by
  rw [isIndent, Bool.or_eq_true, beq_iff_eq, beq_iff_eq] at h
  rcases h with rfl | rfl <;> rfl

theorem unbroken_cons_of_isTrailing (h : isTrailing c = true) :
    unbroken (c :: t) = ' ' :: unbroken t := by
  rw [isTrailing, Bool.or_eq_true, beq_iff_eq] at h
  rcases h with h | rfl
  · exact unbroken_cons_of_isIndent h
  · rfl

/-- On one line, indentation is one run of spaces with the line feed before it. -/
theorem squeeze_unbroken_dropLeading (t : Text) :
    squeeze (unbroken (dropLeading false t)) = squeeze (unbroken t) ∧
      squeeze (' ' :: unbroken (dropLeading true t)) = squeeze (' ' :: unbroken t) := by
  induction t with
  | nil => exact ⟨rfl, rfl⟩
  | cons c t ih =>
    obtain ⟨inside, atStart⟩ := ih
    -- A line feed becomes the space that stands in front of the indentation after it.
    have kept : squeeze (unbroken (c :: dropLeading (c == '\n') t)) =
        squeeze (unbroken (c :: t)) := by
      cases feed : c == '\n' with
      | true =>
        rw [beq_iff_eq.mp feed]
        exact atStart
      | false => exact squeeze_cons_congr inside
    refine ⟨kept, ?_⟩
    rw [dropLeading, Bool.true_and]
    split
    · next indent =>
      rw [atStart, unbroken_cons_of_isIndent indent, squeeze_space_space]
    · exact squeeze_cons_congr kept

/-- On one line, what stands before a line feed is one run of spaces with it. -/
theorem squeeze_unbroken_dropTrailing (t : Text) :
    squeeze (unbroken (dropTrailing t)) = squeeze (unbroken t) := by
  induction t with
  | nil => rfl
  | cons c t ih =>
    rw [dropTrailing]
    split
    · next dropped =>
      rw [Bool.and_eq_true, beq_iff_eq, List.head?_eq_some_iff] at dropped
      obtain ⟨trailing, rest, same⟩ := dropped
      have space : unbroken (dropTrailing t) = ' ' :: unbroken rest := by
        rw [same]
        rfl
      calc squeeze (unbroken (dropTrailing t))
          = squeeze (' ' :: unbroken (dropTrailing t)) := by rw [space, squeeze_space_space]
        _ = squeeze (' ' :: unbroken t) := squeeze_cons_congr ih
        _ = squeeze (unbroken (c :: t)) := by rw [unbroken_cons_of_isTrailing trailing]
    · exact squeeze_cons_congr ih

/-- Margins do not matter to a text on one line. -/
theorem oneLine_withoutMargins (t : Text) : oneLine (withoutMargins t) = oneLine t := by
  rw [oneLine_eq, oneLine_eq, withoutMargins, squeeze_unbroken_dropTrailing,
    (squeeze_unbroken_dropLeading t).1]

theorem withCarriageReturns_cons (c : Char) (t : Text) :
    withCarriageReturns (c :: t) =
      (if c == '\n' then ['\r', '\n'] else [c]) ++ withCarriageReturns t :=
  List.flatMap_cons

theorem dropLeading_withCarriageReturns (atStart : Bool) (t : Text) :
    dropLeading atStart (withCarriageReturns t) = withCarriageReturns (dropLeading atStart t) := by
  induction t generalizing atStart with
  | nil => rfl
  | cons c t ih =>
    rw [withCarriageReturns_cons]
    cases feed : c == '\n' with
    | true =>
      rw [beq_iff_eq.mp feed]
      simp [dropLeading, isIndent, ih, withCarriageReturns_cons]
    | false =>
      cases indent : atStart && isIndent c with
      | true => simp [dropLeading, indent, ih]
      | false => simp [dropLeading, indent, ih, feed, withCarriageReturns_cons]

theorem dropTrailing_withCarriageReturns (t : Text) :
    dropTrailing (withCarriageReturns t) = dropTrailing t := by
  induction t with
  | nil => rfl
  | cons c t ih =>
    rw [withCarriageReturns_cons]
    cases feed : c == '\n' with
    | true =>
      rw [beq_iff_eq.mp feed]
      simp [dropTrailing, isTrailing, isIndent, ih]
    | false => simp [dropTrailing, ih]

/-- Carriage returns before line feeds are margins. -/
theorem withoutMargins_withCarriageReturns (t : Text) :
    withoutMargins (withCarriageReturns t) = withoutMargins t := by
  rw [withoutMargins, dropLeading_withCarriageReturns, dropTrailing_withCarriageReturns,
    withoutMargins]

end DocMarkdown.Text
