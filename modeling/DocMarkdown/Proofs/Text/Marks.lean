import DocMarkdown.Text.Cut
import Mathlib.Data.List.Infix

/-!
# Where marks stand

Cutting a text finds the first place where a mark stands, and passes over all others. For a mark
whose first character does not come back in it, no two places overlap, so cutting succeeds with
exactly the splittings of the text whose first part is free of the mark.

## Main results

* `cut_eq_none_iff` — cutting fails on the texts without the mark
* `cut_eq_some_iff` — cutting finds the one splitting whose first part is free of the mark
* `cutWith_append`, `replaceWith_append` — places at which no mark stands are passed over
* `not_infix_of_cutWith` — the text before a mark that is dropped is free of it
* `dropFolded?_eq_some_iff` — what is dropped is the mark, in either letter case
* `infix_append_cons_iff` — a mark does not reach across a character that is not in it
* `not_infix_replaceWith` — where every mark is replaced none is left
-/

namespace DocMarkdown.Text

variable {m c : Char} {ms mark t a b new before after : Text}

/-! ### Marks that are dropped -/

section Dropped

variable {next : Text → Option Text}

/-- A text is cut where something is dropped. -/
theorem exists_of_cutWith (h : cutWith next t = some (before, after)) :
    ∃ rest, next rest = some after ∧ t = before ++ rest := by
  induction t generalizing before with
  | nil => cases h
  | cons c t ih =>
    rw [cutWith] at h
    split at h
    · next found =>
      obtain ⟨rfl, rfl⟩ := Prod.mk.inj (Option.some.inj h)
      exact ⟨c :: t, found, rfl⟩
    · obtain ⟨⟨front, back⟩, cutRest, same⟩ := Option.map_eq_some_iff.mp h
      obtain ⟨rfl, rfl⟩ := Prod.mk.inj same
      obtain ⟨rest, found, rfl⟩ := ih cutRest
      exact ⟨rest, found, rfl⟩

/-- The text before the place where a text is cut is free of the marks that are dropped. -/
theorem not_infix_of_cutWith (nonempty : mark ≠ []) (dropped : ∀ u, next (mark ++ u) ≠ none)
    (h : cutWith next t = some (before, after)) : ¬ mark <:+: before := by
  induction t generalizing before with
  | nil => cases h
  | cons c t ih =>
    obtain ⟨rest, -, whole⟩ := exists_of_cutWith h
    rw [cutWith] at h
    split at h
    · obtain ⟨rfl, rfl⟩ := Prod.mk.inj (Option.some.inj h)
      exact mt List.infix_nil.mp nonempty
    · next absent =>
      obtain ⟨⟨front, back⟩, cutRest, same⟩ := Option.map_eq_some_iff.mp h
      obtain ⟨rfl, rfl⟩ := Prod.mk.inj same
      rw [List.infix_cons_iff, not_or]
      refine ⟨?_, ih cutRest⟩
      -- A mark at the front of the part would be one at the front of the whole.
      rintro ⟨u, same⟩
      rw [whole, ← same, List.append_assoc] at absent
      exact dropped _ absent

theorem not_infix_of_cutWith_eq_none (nonempty : mark ≠ []) (dropped : ∀ u, next (mark ++ u) ≠ none)
    (h : cutWith next t = none) : ¬ mark <:+: t := by
  induction t with
  | nil => exact mt List.infix_nil.mp nonempty
  | cons c t ih =>
    rw [cutWith] at h
    split at h
    · cases h
    · next absent =>
      rw [List.infix_cons_iff, not_or]
      refine ⟨?_, ih (Option.map_eq_none_iff.mp h)⟩
      rintro ⟨u, same⟩
      exact dropped u (same ▸ absent)

/-- Cutting passes over the places at which the mark does not stand. -/
theorem cutWith_append (passed : ∀ c ∈ a, ∀ u, next (c :: u) = none) (t : Text) :
    cutWith next (a ++ t) = (cutWith next t).map fun (before, after) => (a ++ before, after) := by
  induction a with
  | nil => simp
  | cons c a ih =>
    have rest := ih fun x hx => passed x (List.mem_cons_of_mem c hx)
    rw [List.cons_append, cutWith, passed c List.mem_cons_self, rest, Option.map_map]
    rfl

theorem cutWith_eq_none (passed : ∀ c ∈ t, ∀ u, next (c :: u) = none) : cutWith next t = none := by
  have := cutWith_append passed []
  rwa [List.append_nil] at this

theorem replaceWith_of_none {shortens : Shortens next} (h : cutWith next t = none) :
    replaceWith next shortens new t = t := by
  rw [replaceWith]
  split
  · rfl
  · next found => simp [h] at found

theorem replaceWith_of_some {shortens : Shortens next} (h : cutWith next t = some (a, b)) :
    replaceWith next shortens new t = a ++ new ++ replaceWith next shortens new b := by
  rw [replaceWith]
  split
  · next found => simp [h] at found
  · next found =>
    rw [h, Option.some.injEq, Prod.mk.injEq] at found
    rw [found.1, found.2]

/-- Replacing passes over what cutting passes over. -/
theorem replaceWith_append {shortens : Shortens next}
    (passed : cutWith next (a ++ t) =
      (cutWith next t).map fun (before, after) => (a ++ before, after)) :
    replaceWith next shortens new (a ++ t) = a ++ replaceWith next shortens new t := by
  cases found : cutWith next t with
  | none =>
    rw [found] at passed
    rw [replaceWith_of_none found, replaceWith_of_none passed]
  | some cutAt =>
    rw [found] at passed
    rw [replaceWith_of_some found, replaceWith_of_some passed]
    simp only [List.append_assoc]

end Dropped

/-! ### Letter case -/

/-- Blanks have one letter case. -/
theorem toLower_eq_self_of_isBlank (h : isBlank c = true) : c.toLower = c := by
  refine dif_neg fun ⟨lower, upper⟩ => ?_
  have fromA : 65 ≤ c.toNat := UInt32.le_iff_toNat_le.mp lower
  have toZ : c.toNat ≤ 90 := UInt32.le_iff_toNat_le.mp upper
  simp only [isBlank, Bool.or_eq_true, Bool.and_eq_true, decide_eq_true_eq, beq_iff_eq] at h
  omega

/-- What is visible in small letters is visible. -/
theorem visible_of_map_toLower (visible : ∀ c ∈ t.map Char.toLower, isBlank c = false) :
    ∀ c ∈ t, isBlank c = false := by
  intro c member
  rw [Bool.eq_false_iff]
  intro blank
  have small := visible _ (List.mem_map_of_mem member)
  rw [toLower_eq_self_of_isBlank blank, blank] at small
  cases small

/-- No letter case of another character is the bracket that marks begin with. -/
theorem eq_bracket_of_toLower (h : c.toLower = '<') : c = '<' := by
  by_cases upper : c.val ≥ 'A'.val ∧ c.val ≤ 'Z'.val
  · -- A capital letter becomes a small one, and the bracket is none.
    have shifted : c.toLower.val = c.val + ('a'.val - 'A'.val) := congrArg Char.val (dif_pos upper)
    have same : c.val = '<'.val - ('a'.val - 'A'.val) := by
      rw [← h, shifted]
      simp
    rw [same] at upper
    exact absurd upper (by decide)
  · have kept : c.toLower = c := dif_neg upper
    rwa [kept] at h

theorem dropFolded?_of_ne (hc : c ≠ '<') : dropFolded? ('<' :: mark) (c :: t) = none := by
  rw [dropFolded?, if_neg fun same => hc (eq_bracket_of_toLower same)]

/-- What is dropped is the mark, in one letter case or the other. -/
theorem dropFolded?_eq_some_iff {rest : Text} :
    dropFolded? mark t = some rest ↔
      ∃ spelled : Text, spelled.map Char.toLower = mark ∧ t = spelled ++ rest := by
  induction mark generalizing t with
  | nil => simp [dropFolded?]
  | cons m mark ih =>
    cases t with
    | nil => simp [dropFolded?, List.map_eq_cons_iff]
    | cons c t =>
      rw [dropFolded?]
      split
      · next same =>
        rw [ih]
        constructor
        · rintro ⟨spelled, small, rfl⟩
          exact ⟨c :: spelled, by rw [List.map_cons, same, small], rfl⟩
        · rintro ⟨spelled, small, whole⟩
          obtain ⟨first, others, rfl, -, small⟩ := List.map_eq_cons_iff.mp small
          exact ⟨others, small, (List.cons.inj whole).2⟩
      · next other =>
        refine iff_of_false (Option.some_ne_none rest).symm ?_
        rintro ⟨spelled, small, whole⟩
        obtain ⟨first, others, rfl, same, -⟩ := List.map_eq_cons_iff.mp small
        exact other ((List.cons.inj whole).1 ▸ same)

/-! ### Exact marks -/

/-- A mark stands at the front of a text if it cannot be dropped from there. -/
theorem isPrefixOf?_eq_none_iff : mark.isPrefixOf? t = none ↔ ¬ mark <+: t := by
  rw [Option.eq_none_iff_forall_ne_some, List.IsPrefix, not_exists]
  exact forall_congr' fun rest => not_congr List.isPrefixOf?_eq_some_iff_append_eq

theorem cut_mark_append (nonempty : mark ≠ []) : cut mark (mark ++ after) = some ([], after) := by
  obtain ⟨m, ms, rfl⟩ := List.exists_cons_of_ne_nil nonempty
  rw [cut, List.cons_append, cutWith, ← List.cons_append,
    List.isPrefixOf?_eq_some_iff_append_eq.mpr rfl]

theorem cut_cons_of_absent (h : ¬ mark <+: c :: t) :
    cut mark (c :: t) = (cut mark t).map fun (before, after) => (c :: before, after) := by
  rw [cut, cutWith, isPrefixOf?_eq_none_iff.mpr h]

theorem isPrefixOf?_append_ne_none (u : Text) : mark.isPrefixOf? (mark ++ u) ≠ none :=
  mt isPrefixOf?_eq_none_iff.mp (not_not.mpr (List.prefix_append mark u))

/-- Cutting fails on the texts without the mark. -/
theorem cut_eq_none_iff (nonempty : mark ≠ []) : cut mark t = none ↔ ¬ mark <:+: t := by
  refine ⟨not_infix_of_cutWith_eq_none nonempty isPrefixOf?_append_ne_none, fun absent => ?_⟩
  rw [Option.eq_none_iff_forall_ne_some]
  rintro ⟨before, after⟩ found
  exact absent ⟨before, after, (eq_of_cut found).symm⟩

/-- The text before the place where a text is cut is free of the mark. -/
theorem not_infix_of_cut (nonempty : mark ≠ []) (h : cut mark t = some (before, after)) :
    ¬ mark <:+: before :=
  not_infix_of_cutWith nonempty isPrefixOf?_append_ne_none h

/-- A text without the character `c` does not reach across it. -/
theorem prefix_append_cons_iff (absent : c ∉ mark) :
    mark <+: before ++ c :: after ↔ mark <+: before := by
  refine ⟨fun h => ?_, fun h => h.trans (List.prefix_append _ _)⟩
  -- Along the mark: its next character is not `c`, so it stands before `c`.
  induction mark generalizing before with
  | nil => exact List.nil_prefix
  | cons m mark ih =>
    rw [List.mem_cons, not_or] at absent
    cases before with
    | nil => exact absurd (List.cons_prefix_cons.mp h).1.symm absent.1
    | cons b before =>
      rw [List.cons_append, List.cons_prefix_cons] at h
      exact List.cons_prefix_cons.mpr ⟨h.1, ih absent.2 h.2⟩

/-- A mark does not reach across a character that is not in it. -/
theorem infix_append_cons_iff (absent : c ∉ mark) :
    mark <:+: before ++ c :: after ↔ mark <:+: before ∨ mark <:+: after := by
  induction before with
  | nil =>
    have atFront : mark <+: [] ++ c :: after ↔ mark <+: [] := prefix_append_cons_iff absent
    rw [List.nil_append, List.prefix_nil] at atFront
    rw [List.nil_append, List.infix_cons_iff, List.infix_nil, atFront]
  | cons b before ih =>
    rw [List.cons_append, List.infix_cons_iff, ih, List.infix_cons_iff, ← List.cons_append,
      prefix_append_cons_iff absent, or_assoc]

/-- A mark does not reach across a text that has none of its characters. -/
theorem infix_append_append_iff (nonempty : new ≠ []) (apart : ∀ c ∈ new, c ∉ mark) :
    mark <:+: before ++ new ++ after ↔ mark <:+: before ∨ mark <:+: after := by
  induction new generalizing before with
  | nil => exact absurd rfl nonempty
  | cons c new ih =>
    have first := apart c List.mem_cons_self
    rw [List.append_assoc, List.cons_append, infix_append_cons_iff first]
    cases new with
    | nil => rfl
    | cons d new =>
      have rest : mark <:+: [] ++ d :: new ++ after ↔ mark <:+: [] ∨ mark <:+: after :=
        ih (List.cons_ne_nil d new) fun x hx => apart x (List.mem_cons_of_mem c hx)
      rw [← List.nil_append (d :: new), rest, ← or_assoc]
      exact or_congr_left (or_iff_left_of_imp fun none => none.trans (List.nil_infix))

/-- Where every mark is replaced none is left, and no new one is made. -/
theorem not_infix_replaceWith {next : Text → Option Text} {shortens : Shortens next}
    (nonempty : mark ≠ []) (dropped : ∀ u, next (mark ++ u) ≠ none) (filled : new ≠ [])
    (apart : ∀ c ∈ new, c ∉ mark) (t : Text) : ¬ mark <:+: replaceWith next shortens new t := by
  fun_induction replaceWith next shortens new t with
  | case1 t found => exact not_infix_of_cutWith_eq_none nonempty dropped found
  | case2 t before after found ih =>
    rw [infix_append_append_iff filled apart, not_or]
    exact ⟨not_infix_of_cutWith nonempty dropped found, ih⟩

/-- A text is cut at the first mark even where the text before it ends like a mark begins. -/
theorem cut_append (fresh : m ∉ ms) (h : ¬ (m :: ms) <:+: before) :
    cut (m :: ms) (before ++ (m :: ms) ++ after) = some (before, after) := by
  induction before with
  | nil => exact cut_mark_append (List.cons_ne_nil m ms)
  | cons b before ih =>
    rw [List.infix_cons_iff, not_or] at h
    -- A mark that stood here would overlap the one after `before`, but its first character does
    -- not come back in it.
    have later : ¬ (m :: ms) <+: b :: (before ++ (m :: ms) ++ after) := by
      rw [List.cons_prefix_cons, List.append_assoc, List.cons_append,
        prefix_append_cons_iff fresh, ← List.cons_prefix_cons]
      exact h.1
    rw [List.cons_append, List.cons_append, cut_cons_of_absent later, ih h.2]
    rfl

/-- Cutting finds the one splitting of a text whose first part is free of the mark. -/
theorem cut_eq_some_iff (fresh : m ∉ ms) :
    cut (m :: ms) t = some (before, after) ↔
      t = before ++ (m :: ms) ++ after ∧ ¬ (m :: ms) <:+: before := by
  constructor
  · intro h
    exact ⟨eq_of_cut h, not_infix_of_cut (List.cons_ne_nil m ms) h⟩
  · rintro ⟨rfl, h⟩
    exact cut_append fresh h

end DocMarkdown.Text
