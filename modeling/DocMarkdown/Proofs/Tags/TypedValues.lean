import DocMarkdown.Proofs.Tags.Agreement
import DocMarkdown.Proofs.Text.Words

/-!
# Values that begin with a type

The values of some tags begin with a type, with a name, or with both. These words are shown as code,
in the order of the dialect, with a dash behind each; the remainder of the value is shown as it
stands, with its further paragraphs. Where the first words do not have the expected form the first
of them alone is shown, and the second is the only word that is lost.

## Main definitions

* `codeBefore` — words as code, each with a dash behind it, before a text
* `IsVariableName`, `IsBracedType` — the expected forms of words
* `Dialect.Shows` — what is made of a tag: its group, the words shown as code and the remainder

## Main results

* `words_codeBefore` — the words of what is shown
* `Dialect.shows_plain`, `Dialect.shows_parameter` — what is made of a value that is split
* `words_of_typed_values` — what becomes of every word of a value that begins with a type
-/

namespace DocMarkdown

open Text (IsSplit)

variable {value first gap rest second gap' rest' type name : Text} {codes : List Text} {c : Char}

/-! ### Code before a text -/

/-- Words as code, each with a dash behind it, before a text. -/
def codeBefore (codes : List Text) (rest : Text) : Text :=
  codes.flatMap (fun code => inlineCode code ++ dash) ++ rest

theorem visible_inlineCode (visible : ∀ c ∈ type, Text.isBlank c = false) :
    ∀ c ∈ inlineCode type, Text.isBlank c = false := by
  have mark : ∀ c ∈ codeMark, Text.isBlank c = false := List.forall_mem_singleton.mpr (by decide)
  simp only [inlineCode, List.mem_append]
  rintro c ((member | member) | member)
  · exact mark c member
  · exact visible c member
  · exact mark c member

/-- A word shown as code is one word, and so is the dash behind it. -/
theorem words_codeBefore (visible : ∀ code ∈ codes, ∀ c ∈ code, Text.isBlank c = false)
    (rest : Text) :
    Text.words (codeBefore codes rest) =
      codes.flatMap (fun code => [inlineCode code, "—".toList]) ++ Text.words rest := by
  induction codes with
  | nil => rfl
  | cons code codes ih =>
    have one := Text.words_of_visible (visible_inlineCode (visible code List.mem_cons_self))
    have nonempty : inlineCode code ≠ [] := nofun
    -- The blanks around the dash part the three.
    have apart : codeBefore (code :: codes) rest =
        inlineCode code ++ ' ' :: ("—".toList ++ ' ' :: codeBefore codes rest) := by
      simp [codeBefore, dash]
    rw [apart, Text.words_append_cons (by decide), Text.words_append_cons (by decide), one,
      ih fun code hc => visible code (List.mem_cons_of_mem _ hc)]
    simp [nonempty]
    rfl

/-! ### The forms of words -/

/-- A dollar sign before one or more of the letters A to Z of either case, the digits, the low line
and the dollar sign. -/
def IsVariableName (t : Text) : Prop :=
  ∃ name, t = '$' :: name ∧ name ≠ [] ∧ ∀ c ∈ name,
    'A' ≤ c ∧ c ≤ 'Z' ∨ 'a' ≤ c ∧ c ≤ 'z' ∨ '0' ≤ c ∧ c ≤ '9' ∨ c = '_' ∨ c = '$'

/-- One pair of braces around a type that is not empty and has no braces itself. -/
def IsBracedType (type t : Text) : Prop :=
  t = '{' :: type ++ ['}'] ∧ type ≠ [] ∧ '{' ∉ type ∧ '}' ∉ type

namespace TypeStyle

theorem isNameChar_iff : isNameChar c = true ↔
    'A' ≤ c ∧ c ≤ 'Z' ∨ 'a' ≤ c ∧ c ≤ 'z' ∨ '0' ≤ c ∧ c ≤ '9' ∨ c = '_' ∨ c = '$' := by
  have letter : c.isAlpha = true ↔ 'A' ≤ c ∧ c ≤ 'Z' ∨ 'a' ≤ c ∧ c ≤ 'z' := by
    delta Char.isAlpha Char.isUpper Char.isLower
    simp only [Bool.or_eq_true, Bool.and_eq_true, decide_eq_true_eq, Char.le_def]
  have digit : c.isDigit = true ↔ '0' ≤ c ∧ c ≤ '9' := by
    delta Char.isDigit
    simp only [Bool.and_eq_true, decide_eq_true_eq, Char.le_def]
  simp only [isNameChar, Char.isAlphanum, Bool.or_eq_true, letter, digit, beq_iff_eq, or_assoc]

theorem isVariable_iff {t : Text} : isVariable t = true ↔ IsVariableName t := by
  unfold isVariable
  split
  · next name =>
    rw [Bool.and_eq_true, List.all_eq_true]
    simp only [isNameChar_iff]
    constructor
    · rintro ⟨nonempty, letters⟩
      exact ⟨name, rfl, by simpa using nonempty, letters⟩
    · rintro ⟨_, ⟨⟩, nonempty, letters⟩
      exact ⟨by simpa using nonempty, letters⟩
  · next other =>
    refine iff_of_false nofun ?_
    rintro ⟨name, same, -⟩
    exact other name same

theorem inBraces?_eq_some_iff {t : Text} : inBraces? t = some type ↔ t = '{' :: type ++ ['}'] := by
  unfold inBraces?
  split
  · next rest =>
    rw [List.cons_append, List.cons.injEq, and_iff_right rfl]
    constructor
    · intro found
      split at found
      · next last =>
        obtain rfl := Option.some.inj found
        exact (List.dropLast_append_getLast? _ last).symm
      · nomatch found
    · rintro rfl
      simp
  · next other =>
    refine iff_of_false nofun ?_
    rintro rfl
    exact other _ rfl

/-- A variable's name comes first, and what stands before it as its type comes second. -/
theorem showParameter_dollar (named : IsVariableName name) (rest : Text) :
    dollar.showParameter type name ++ dash ++ rest = codeBefore [name, type] rest := by
  have shown : dollar.showParameter type name = inlineCode name ++ dash ++ inlineCode type :=
    if_pos (isVariable_iff.mpr named)
  simp [shown, codeBefore]

theorem showParameter_dollar_of_not (other : ¬ IsVariableName name) (rest : Text) :
    dollar.showParameter type name ++ dash ++ rest = codeBefore [type] rest := by
  have shown : dollar.showParameter type name = inlineCode type :=
    if_neg (mt isVariable_iff.mp other)
  simp [shown, codeBefore]

theorem fits_braces_iff :
    (!type.isEmpty && type.all fun c => !(c == '{' || c == '}')) = true ↔
      type ≠ [] ∧ '{' ∉ type ∧ '}' ∉ type := by
  simp only [Bool.and_eq_true, Bool.not_eq_true', List.isEmpty_eq_false_iff, List.all_eq_true,
    Bool.or_eq_false_iff, beq_eq_false_iff_ne, ← List.forall_mem_ne', forall_and]

/-- The word behind a type in braces comes first, and the type comes second, without the braces. -/
theorem showParameter_braces {word : Text} (braced : IsBracedType type word) (rest : Text) :
    braces.showParameter word name ++ dash ++ rest = codeBefore [name, type] rest := by
  obtain ⟨same, fits⟩ := braced
  have shown : braces.showParameter word name = inlineCode name ++ dash ++ inlineCode type := by
    simp only [braces, inBraces?_eq_some_iff.mpr same]
    exact if_pos (fits_braces_iff.mpr fits)
  simp [shown, codeBefore]

theorem showParameter_braces_of_not {word : Text} (other : ¬ ∃ type, IsBracedType type word)
    (rest : Text) : braces.showParameter word name ++ dash ++ rest = codeBefore [word] rest := by
  have shown : braces.showParameter word name = inlineCode word := by
    dsimp only [braces]
    split
    · next type found =>
      exact if_neg fun fits =>
        other ⟨type, inBraces?_eq_some_iff.mp found, fits_braces_iff.mp fits⟩
    · rfl
  simp [shown, codeBefore]

end TypeStyle

/-! ### What is made of a tag -/

namespace Dialect

variable {d : Dialect} {tag : Tag} {group : String} {kind : ValueKind}

/-- A tag is shown in a group as some words in code and then a remainder. These are the words of the
item, but for the dashes between them, and the remainder ends the value of the tag as it ends the
item. -/
structure Shows (d : Dialect) (tag : Tag) (group : String) (codes : List Text) (rest : Text) :
    Prop where
  placed : d.place? tag = some (group, .text (codeBefore codes rest))
  words_eq : Text.words (codeBefore codes rest) =
    codes.flatMap (fun code => [inlineCode code, "—".toList]) ++ Text.words rest
  verbatim : rest <:+ tag.value

theorem shows_of_lookup {showValue : Text → Text} (inked : Text.blank tag.value = false)
    (found : recognised.lookup tag.key = some (group, kind))
    (shown : d.item? kind tag.value = some (unlessBlank showValue tag.value))
    (same : showValue tag.value = codeBefore codes rest)
    (visible : ∀ code ∈ codes, ∀ c ∈ code, Text.isBlank c = false) (verbatim : rest <:+ tag.value) :
    d.Shows tag group codes rest where
  placed := by
    rw [place?_of_lookup found, shown, unlessBlank, inked, same]
    rfl
  words_eq := words_codeBefore visible rest
  verbatim := verbatim

/-- Where types stand in the code, the first word of a type or a parameter is shown as code. -/
theorem shows_plain (split : IsSplit tag.value first gap rest)
    (inked : Text.blank tag.value = false)
    (found : recognised.lookup tag.key = some (group, kind))
    (leading : kind = .typed ∨ kind = .parameter) : plain.Shows tag group [first] rest := by
  have same : plain.showTyped tag.value = codeBefore [first] rest := by
    simp [showTyped, split.splitWord_eq, showType, codeBefore]
  have visible : ∀ code ∈ [first], ∀ c ∈ code, Text.isBlank c = false := by
    simpa using split.visible
  rcases leading with rfl | rfl
  · exact shows_of_lookup inked found rfl same visible split.suffix
  · exact shows_of_lookup inked found rfl same visible split.suffix

/-- Where types stand in the comment, the first two words of a parameter are shown as the style of
types has them. -/
theorem shows_parameter {style : TypeStyle} (split : IsSplit tag.value first gap rest)
    (split' : IsSplit rest second gap' rest') (inked : Text.blank tag.value = false)
    (found : recognised.lookup tag.key = some (group, .parameter))
    (same : style.showParameter first second ++ dash ++ rest' = codeBefore codes rest')
    (visible : ∀ code ∈ codes, ∀ c ∈ code, Text.isBlank c = false) :
    (typed style).Shows tag group codes rest' := by
  refine shows_of_lookup inked found rfl ?_ visible (split'.suffix.trans split.suffix)
  rw [showParameter, split.splitWord_eq]
  dsimp only
  rw [split'.splitWord_eq]
  exact same

end Dialect

open Dialect (Shows)

/-- What becomes of every word of a value that begins with a type. Let the value be split into its
first word and a remainder, and the remainder likewise. Where types stand in the code, parameters
and exceptions are shown as the first word and the remainder. Where the comment states types,
parameters are shown as both words, the name before its type, and what follows them: with a dollar
sign if the second word is a variable, and with braces if the first is a type in braces, which are
dropped. Else the second word is lost, and no other word is. -/
theorem words_of_typed_values (value : Text) (inked : Text.blank value = false)
    (flush : ∀ c ∈ value.head?, Text.isBlank c = false) :
    ∃ first gap rest second gap' rest',
      IsSplit value first gap rest ∧ IsSplit rest second gap' rest' ∧
      Text.words value = first :: Text.words rest ∧
      Text.words rest = [second].filter (· ≠ []) ++ Text.words rest' ∧
      Shows .plain ⟨"param", value⟩ "Parameters" [first] rest ∧
      Shows .plain ⟨"exception", value⟩ "Exceptions" [first] rest ∧
      Shows .plain ⟨"throws", value⟩ "Exceptions" [first] rest ∧
      (IsVariableName second →
        Shows (.typed .dollar) ⟨"param", value⟩ "Parameters" [second, first] rest') ∧
      (¬ IsVariableName second →
        Shows (.typed .dollar) ⟨"param", value⟩ "Parameters" [first] rest') ∧
      (∀ type, IsBracedType type first →
        Shows (.typed .braces) ⟨"param", value⟩ "Parameters" [second, type] rest') ∧
      ((¬ ∃ type, IsBracedType type first) →
        Shows (.typed .braces) ⟨"param", value⟩ "Parameters" [first] rest') := by
  obtain ⟨gap, split⟩ := Text.isSplit_splitWord value
  obtain ⟨gap', split'⟩ := Text.isSplit_splitWord (Text.splitWord value).2
  set first := (Text.splitWord value).1
  set rest := (Text.splitWord value).2
  set second := (Text.splitWord rest).1
  set rest' := (Text.splitWord rest).2
  have both : ∀ code ∈ [second, first], ∀ c ∈ code, Text.isBlank c = false := by
    simpa using ⟨split'.visible, split.visible⟩
  have one : ∀ code ∈ [first], ∀ c ∈ code, Text.isBlank c = false := by
    simpa using split.visible
  refine ⟨first, gap, rest, second, gap', rest', split, split', ?_, split'.words_eq,
    Dialect.shows_plain split inked rfl (Or.inr rfl),
    Dialect.shows_plain split inked rfl (Or.inl rfl),
    Dialect.shows_plain split inked rfl (Or.inl rfl), fun named => ?_, fun other => ?_,
    fun type braced => ?_, fun other => ?_⟩
  · have nonempty : first ≠ [] := split.ne_nil inked flush
    simp [split.words_eq, nonempty]
  · exact Dialect.shows_parameter split split' inked rfl
      (TypeStyle.showParameter_dollar named rest') both
  · exact Dialect.shows_parameter split split' inked rfl
      (TypeStyle.showParameter_dollar_of_not other rest') one
  · -- The type is a part of the first word.
    have visible : ∀ code ∈ [second, type], ∀ c ∈ code, Text.isBlank c = false := by
      refine List.forall_mem_cons.mpr ⟨split'.visible, List.forall_mem_singleton.mpr ?_⟩
      intro c hc
      exact split.visible c (by simp [braced.1, hc])
    exact Dialect.shows_parameter split split' inked rfl
      (TypeStyle.showParameter_braces braced rest') visible
  · exact Dialect.shows_parameter split split' inked rfl
      (TypeStyle.showParameter_braces_of_not other rest') one

/-- A type and a variable, and then a remainder with a second paragraph. -/
theorem words_of_typed_values_paragraphs :
    Text.blank "int $n the\n\n   two  sums".toList = false ∧
      (∀ c ∈ "int $n the\n\n   two  sums".toList.head?, Text.isBlank c = false) ∧
      Shows (.typed .dollar) ⟨"param", "int $n the\n\n   two  sums".toList⟩ "Parameters"
        ["$n".toList, "int".toList] "the\n\n   two  sums".toList := by
  have inked : Text.blank "int $n the\n\n   two  sums".toList = false := by decide
  have flush : ∀ c ∈ "int $n the\n\n   two  sums".toList.head?, Text.isBlank c = false := by
    rintro c ⟨⟩
    decide
  refine ⟨inked, flush, ?_⟩
  obtain ⟨first, gap, rest, second, gap', rest', split, split', -, -, -, -, -, named, -⟩ :=
    words_of_typed_values _ inked flush
  have value : Text.splitWord "int $n the\n\n   two  sums".toList =
      ("int".toList, "$n the\n\n   two  sums".toList) := by decide
  obtain ⟨rfl, rfl⟩ := Prod.mk.inj (split.splitWord_eq.symm.trans value)
  have remainder : Text.splitWord "$n the\n\n   two  sums".toList =
      ("$n".toList, "the\n\n   two  sums".toList) := by decide
  obtain ⟨rfl, rfl⟩ := Prod.mk.inj (split'.splitWord_eq.symm.trans remainder)
  exact named ⟨"n".toList, rfl, by decide, List.forall_mem_singleton.mpr (by decide)⟩

end DocMarkdown
