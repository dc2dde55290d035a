import DocMarkdown.Languages
import DocMarkdown.Proofs.Source.Grammar

/-!
# Joining source texts

Two source texts may be joined by a character that ends a fragment and is in no mark. If no comment
is left open in the first text, the joined text documents what the first documents and then what the
second does: the character ends the fragment of the first text's last block, and keeps a mark from
being made up of the end of one text and the beginning of the other.

## Main definitions

* `Dialect.subsections` — what a document shows below its title

## Main results

* `next?_append_cons`, `next?_skip_cons` — the first block of two joined texts
* `documentedIn_append_cons` — the documented declarations of two joined texts
* `convert_push_append` — the document of two joined texts
-/

namespace DocMarkdown

namespace Block

variable {b : Block} {a t rest : Text} {c : Char}

/-- The joining characters: they end a fragment, and no mark can reach across them. -/
def IsBoundary (c : Char) : Prop := c = ';' ∨ c = '{'

theorem IsBoundary.endsFragment (h : IsBoundary c) : endsFragment c = true := by
  rcases h with rfl | rfl <;> rfl

theorem IsBoundary.not_mem_opening (h : IsBoundary c) : c ∉ opening := by
  rcases h with rfl | rfl <;> decide

/-- A complete block stays the first one when its text is joined to another. -/
theorem next?_append_cons (boundary : IsBoundary c) (h : next? a = some (b, rest)) :
    next? (a ++ c :: t) = some (b, rest ++ c :: t) := by
  obtain ⟨delimited, follows, rfl⟩ := next?_eq_some_iff.mp h
  refine next?_eq_some_iff.mpr ⟨delimited, ?_, List.append_assoc _ _ _⟩
  intro x hx
  cases rest with
  | nil =>
    -- The fragment reached the end of the first text, and now ends at the joining character.
    obtain rfl : c = x := by simpa using hx
    exact boundary.endsFragment
  | cons r rest => exact follows x hx

/-- A text in which no comment opens is passed over, and becomes part of the next gap. -/
theorem next?_skip_cons (boundary : IsBoundary c) (closed : ¬ opening <:+: a) :
    next? (a ++ c :: t) =
      (next? t).map fun (b, rest) => ({ b with gap := a ++ c :: b.gap }, rest) := by
  have skipped : ∀ u : Text, ¬ opening <:+: u → ¬ opening <:+: a ++ c :: u := by
    intro u free
    rw [Text.infix_append_cons_iff boundary.not_mem_opening, not_or]
    exact ⟨closed, free⟩
  cases found : next? t with
  | none =>
    rw [Option.map_none, next?_eq_none_iff]
    rcases next?_eq_none_iff.mp found with free | ⟨before, after, rfl, first, unclosed⟩
    · exact Or.inl (skipped t free)
    · exact Or.inr ⟨a ++ c :: before, after, by simp, skipped before first, unclosed⟩
  | some cutAt =>
    obtain ⟨b, rest⟩ := cutAt
    obtain ⟨delimited, follows, rfl⟩ := next?_eq_some_iff.mp found
    rw [Option.map_some, next?_eq_some_iff]
    exact ⟨⟨skipped b.gap delimited.gap, delimited.body, delimited.fragment⟩, follows,
      by simp [text]⟩

end Block

variable {a t : Text} {c : Char}

/-- The documented declarations of a text do not depend on what no comment opens in. -/
theorem documentedIn_skip_cons (boundary : Block.IsBoundary c)
    (closed : ¬ Block.opening <:+: a) : documentedIn (a ++ c :: t) = documentedIn t := by
  rw [documentedIn_eq (a ++ c :: t), Block.next?_skip_cons boundary closed, documentedIn_eq t]
  cases Block.next? t with
  | none => rfl
  | some found => rfl

/-- Two joined texts document what the first documents, and then what the second does. -/
theorem documentedIn_append_cons (boundary : Block.IsBoundary c)
    (closed : ¬ Block.opening <:+: (Source.ofText a).tail) :
    documentedIn (a ++ c :: t) = documentedIn a ++ documentedIn t := by
  -- By induction on the blocks of the first text, all of which have the same tail.
  fun_induction Source.ofText a with
  | case1 a none =>
    rw [documentedIn_eq a, none, documentedIn_skip_cons boundary closed]
    rfl
  | case2 a b rest some _ ih =>
    rw [documentedIn_eq (a ++ c :: t), Block.next?_append_cons boundary some,
      documentedIn_eq a, some]
    dsimp only
    rw [ih closed, List.append_assoc]

/-- What the document of a source text shows below its title. -/
def Dialect.subsections (d : Dialect) (level : Nat) (code : Text) : Text :=
  (documentedIn code).flatMap (Markdown.subsection d level)

theorem Languages.convert_of_find {languages : Languages} {language : String} {d : Dialect}
    (registered : languages.find language = .ok d) (code : String) (level : Nat) :
    languages.convert language code level =
      .ok (String.ofList (Markdown.title level ++ d.subsections level code.toList ++ ['\n'])) := by
  rw [Languages.convert, registered]
  rfl

/-- The document of a source text, from its documented declarations. -/
theorem Languages.convert_of_documentedIn {languages : Languages} {language : String} {d : Dialect}
    (registered : languages.find language = .ok d) {code : String} {documented : List Documented}
    (found : documentedIn code.toList = documented) (level : Nat) :
    languages.convert language code level =
      .ok (String.ofList (Markdown.document d level documented)) := by
  rw [Languages.convert_of_find registered, Dialect.subsections, found, Markdown.document]

/-- Converting is compositional. In every registered language a document is its title, the
subsections of its source text, and the end of the line. Where two source texts are joined by the
end of a statement or the start of a body, and the first leaves no comment open, both the documented
declarations and the subsections are those of the first text and then those of the second. -/
theorem convert_push_append {languages : Languages} {language : String} {d : Dialect}
    (registered : languages.find language = .ok d) (level : Nat) {a b : String}
    (boundary : c = ';' ∨ c = '{')
    (closed : ¬ Block.opening <:+: (Source.ofText a.toList).tail) :
    documentedIn (a.push c ++ b).toList = documentedIn a.toList ++ documentedIn b.toList ∧
      (∀ code : String, languages.convert language code level =
        .ok (String.ofList (Markdown.title level ++ d.subsections level code.toList ++ ['\n']))) ∧
      d.subsections level (a.push c ++ b).toList =
        d.subsections level a.toList ++ d.subsections level b.toList := by
  have joined : (a.push c ++ b).toList = a.toList ++ c :: b.toList := by simp
  have documented := documentedIn_append_cons (t := b.toList) boundary closed
  rw [joined]
  refine ⟨documented, fun code => Languages.convert_of_find registered code level, ?_⟩
  simp only [Dialect.subsections, documented, List.flatMap_append]

/-- A first text that ends in the fragment of its last block, and a second that begins like the rest
of a mark. -/
theorem convert_push_append_javadoc :
    Languages.builtIn.find "Javadoc" = .ok .plain ∧
      ¬ Block.opening <:+: (Source.ofText "/** A. */ int x; /** B. */ y/".toList).tail ∧
      documentedIn ("/** A. */ int x; /** B. */ y/".push ';' ++ "** /** C. */ int z;").toList =
        documentedIn "/** A. */ int x; /** B. */ y/".toList ++
          documentedIn "** /** C. */ int z;".toList := by
  have registered : Languages.builtIn.find "Javadoc" = .ok .plain := rfl
  have tail : (Source.ofText "/** A. */ int x; /** B. */ y/".toList).tail = ['/'] := by cbv
  have closed :
      ¬ Block.opening <:+: (Source.ofText "/** A. */ int x; /** B. */ y/".toList).tail := by
    rw [tail]
    decide
  exact ⟨registered, closed, (convert_push_append registered 1 (Or.inl rfl) closed).1⟩

end DocMarkdown
