import DocMarkdown.FileTree.Path
import DocMarkdown.Proofs.Text.Lines

/-!
# The names of a path

The names of a path are the pieces between its slashes that are not empty. So the path of a name in
a directory has the names of the directory and then this one, whether or not the directory ends in a
slash.

## Main definitions

* `Path.IsPart` — what may stand between the slashes of a path
* `Path.parts` — the pieces of a text between slashes that are not empty

## Main results

* `names_eq_ok_iff` — which texts are paths, and what their names are
* `isPart_of_names` — the names of a path are parts
* `names_join` — the names of the path of a name in a directory
* `join_injective` — the paths of two names in a directory differ
-/

namespace DocMarkdown.Path

variable {path directory name : String} {ns : List String} {a b t : Text}

/-- What may stand between the slashes of a path: a text without slashes that is not empty. -/
def IsPart (name : String) : Prop := name ≠ "" ∧ '/' ∉ name.toList

instance (name : String) : Decidable (IsPart name) := inferInstanceAs (Decidable (_ ∧ _))

/-- The pieces of a text between slashes that are not empty. -/
def parts (t : Text) : List String :=
  ((Text.pieces '/' t).filter (!·.isEmpty)).map String.ofList

theorem parts_append_slash (a b : Text) : parts (a ++ '/' :: b) = parts a ++ parts b := by
  simp only [parts, Text.pieces_eq_splitOn, List.splitOn_append_cons_self, List.filter_append,
    List.map_append]

theorem parts_of_isPart (part : IsPart name) : parts name.toList = [name] := by
  have nonempty : name.toList.isEmpty = false := by
    rw [List.isEmpty_eq_false_iff]
    exact fun empty => part.1 (String.toList_eq_nil_iff.mp empty)
  rw [parts, Text.pieces_eq_splitOn, List.splitOn_eq_singleton part.2]
  simp [nonempty]

/-- A text is a path if it holds no character of code zero, is not too long nor empty, and does not
begin with a slash. -/
theorem names_eq_ok_iff :
    names path = .ok ns ↔ Char.ofNat 0 ∉ path.toList ∧ isTooLong path = false ∧ path.toList ≠ [] ∧
      path.toList.head? ≠ some '/' ∧ ns = parts path.toList := by
  simp only [names, List.contains_eq_mem, decide_eq_true_eq]
  rw [← parts]
  split
  · simp_all only [not_true_eq_false, false_and, reduceCtorEq]
  · split
    · simp_all only [Bool.true_eq_false, false_and, and_false, reduceCtorEq]
    · split
      · next outside =>
        simp only [Bool.or_eq_true, List.isEmpty_iff, beq_iff_eq] at outside
        rcases outside with outside | outside <;> simp [outside]
      · next inside =>
        simp only [Bool.or_eq_true, List.isEmpty_iff, beq_iff_eq, not_or] at inside
        simp_all only [not_false_eq_true, ne_eq, true_and, Except.ok.injEq]
        exact eq_comm

/-- The names of a path are parts. -/
theorem isPart_of_names (found : names path = .ok ns) (member : name ∈ ns) : IsPart name := by
  obtain ⟨-, -, -, -, rfl⟩ := names_eq_ok_iff.mp found
  simp only [parts, List.mem_map, List.mem_filter] at member
  obtain ⟨piece, ⟨member, nonempty⟩, rfl⟩ := member
  refine ⟨fun empty => ?_, ?_⟩
  · rw [← String.toList_eq_nil_iff, String.toList_ofList] at empty
    simp [empty] at nonempty
  · rw [String.toList_ofList]
    exact Text.not_mem_of_mem_pieces member

/-- The path of a name in a directory is the directory, a slash and the name, where a slash at the
end of the directory is the one between the two. -/
theorem exists_toList_join (given : directory ≠ "") :
    ∃ front : Text, (directory.toList = front ∨ directory.toList = front ++ ['/']) ∧
      ∀ name, (join directory name).toList = front ++ '/' :: name.toList := by
  have nonempty : directory.isEmpty = false := by simpa using given
  by_cases ends : endsInSlash directory = true
  · obtain ⟨front, same⟩ := List.getLast?_eq_some_iff.mp (eq_of_beq ends)
    refine ⟨front, .inr same, fun name => ?_⟩
    rw [join, nonempty, ends]
    simp [same]
  · refine ⟨directory.toList, .inl rfl, fun name => ?_⟩
    rw [join, nonempty, Bool.eq_false_iff.mpr ends]
    simp

/-- A directory begins the path of a name in it. -/
theorem exists_join_eq_append (directory name : String) :
    ∃ rest, join directory name = directory ++ rest := by
  rw [join]
  split
  · exact ⟨name, rfl⟩
  · exact ⟨"/" ++ name, String.append_assoc⟩

/-- The path of a name in a directory leads on from the directory by this name. The empty directory
is the top. -/
theorem names_join (part : IsPart name) (found : names (join directory name) = .ok ns) :
    ∃ front, ns = front ++ [name] ∧
      (directory = "" ∧ front = [] ∨ names directory = .ok front) := by
  obtain ⟨noZero, short, -, inside, rfl⟩ := names_eq_ok_iff.mp found
  by_cases given : directory = ""
  · subst given
    exact ⟨[], parts_of_isPart part, .inl ⟨rfl, rfl⟩⟩
  · obtain ⟨front, own, joined⟩ := exists_toList_join given
    obtain ⟨rest, whole⟩ := exists_join_eq_append directory name
    -- A slash at the end of the directory adds no part.
    have same : parts directory.toList = parts front := by
      rcases own with own | own
      · rw [own]
      · rw [own, parts_append_slash]
        simp [parts, Text.pieces]
    have nonempty : directory.toList ≠ [] := mt String.toList_eq_nil_iff.mp given
    refine ⟨parts front, ?_, .inr (names_eq_ok_iff.mpr ⟨?_, ?_, nonempty, ?_, same.symm⟩)⟩
    · rw [joined, parts_append_slash, parts_of_isPart part]
    · rw [whole, String.toList_append, List.mem_append, not_or] at noZero
      exact noZero.1
    · simp only [isTooLong, whole, String.utf8ByteSize_append, decide_eq_false_iff_not] at short ⊢
      omega
    · rw [whole, String.toList_append, List.head?_append_of_ne_nil _ nonempty] at inside
      exact inside

theorem join_injective : Function.Injective (join directory) := by
  intro a b same
  by_cases given : directory = ""
  · subst given
    simpa [join] using same
  · obtain ⟨front, -, joined⟩ := exists_toList_join given
    have both := congrArg String.toList same
    rw [joined, joined, List.append_cancel_left_eq, List.cons.injEq] at both
    exact String.toList_injective both.2

end DocMarkdown.Path
