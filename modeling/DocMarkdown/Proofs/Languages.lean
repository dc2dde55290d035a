import DocMarkdown.Languages
import DocMarkdown.Proofs.Letters.ByteOrder
import DocMarkdown.Proofs.Letters.Lowercase
import Mathlib.Data.List.Induction

/-!
# Languages after any registrations

However many dialects have been registered, a language has the one that was registered last under
its name in any letter case, and names are listed in lowercase. What is listed is in lowercase
already, so a language is found by it.

## Main definitions

* `Languages.ofCalls` — the languages that registrations make
* `Languages.History` — languages, and the registrations that have led to them
* `Languages.latest?` — the dialect registered last under a name

## Main results

* `find?_ofCalls` — a language has the dialect registered last
* `mem_names_ofCalls` — the listed names are those of the registrations, in lowercase
* `languages_of_history` — finding, registering and listing after any registrations
-/

namespace DocMarkdown.Languages

open Letters (bytes lowercase lowercase_lowercase)

variable {languages : Languages} {calls : List (String × Dialect)} {name own : String}
  {dialect : Dialect}

/-- The languages that registrations make, one after another. -/
def ofCalls (calls : List (String × Dialect)) : Languages :=
  calls.foldl (fun languages call => (languages.register call.1 call.2).2) empty

/-- The registrations that make the built-in languages. -/
def builtInCalls : List (String × Dialect) :=
  [("javadoc", .plain), ("phpdoc", .typed .dollar), ("jsdoc", .typed .braces)]

/-- Languages to which registrations, in their order, have led from no languages or from the
built-in ones. -/
inductive History : List (String × Dialect) → Languages → Prop
  | empty : History [] empty
  | builtIn : History builtInCalls builtIn
  | register {calls : List (String × Dialect)} {languages : Languages}
      (earlier : History calls languages) (name : String) (dialect : Dialect) :
      History (calls ++ [(name, dialect)]) (languages.register name dialect).2

theorem ofCalls_append_singleton :
    ofCalls (calls ++ [(own, dialect)]) = (ofCalls calls).insert own dialect := by
  rw [ofCalls, List.foldl_append]
  rfl

/-- The built-in languages are made by registrations too. -/
theorem History.eq_ofCalls (history : History calls languages) : languages = ofCalls calls := by
  induction history with
  | empty => rfl
  | builtIn => rfl
  | register _ own dialect ih =>
    rw [ofCalls_append_singleton, ih]
    rfl

/-! ### Finding -/

/-- The dialect registered last under a name, in any letter case. -/
def latest? (calls : List (String × Dialect)) (name : String) : Option Dialect :=
  (calls.findRev? fun call => lowercase call.1 == lowercase name).map (·.2)

/-- One more registration is the last one under its own name, and does not matter under others. -/
theorem latest?_append_singleton :
    latest? (calls ++ [(own, dialect)]) name =
      if lowercase own = lowercase name then some dialect else latest? calls name := by
  simp only [latest?, List.findRev?_eq_find?_reverse, List.reverse_append, List.reverse_singleton,
    List.singleton_append, List.find?_cons]
  split
  · next same =>
    rw [if_pos (eq_of_beq same)]
    rfl
  · next apart => rw [if_neg (ne_of_beq_false apart)]

/-- Some dialect is the last one under a name if anything has been registered under it. -/
theorem isSome_latest?_iff :
    (latest? calls name).isSome ↔ ∃ call ∈ calls, lowercase call.1 = lowercase name := by
  simp [latest?]

/-- A language has the dialect that was registered last under its name. -/
theorem find?_ofCalls : (ofCalls calls).find? name = latest? calls name := by
  induction calls using List.reverseRecOn with
  | nil => exact find?_empty name
  | append_singleton calls call ih =>
    rw [ofCalls_append_singleton, find?_insert, latest?_append_singleton, ih]

theorem find_eq_ok_iff :
    languages.find name = .ok dialect ↔ languages.find? name = some dialect := by
  rw [find]
  cases languages.find? name <;> simp

theorem toOption_find : (languages.find name).toOption = languages.find? name := by
  rw [find]
  cases languages.find? name <;> rfl

/-! ### Listing -/

theorem mem_names_insert :
    name ∈ (languages.insert own dialect).names ↔ lowercase own = name ∨ name ∈ languages.names := by
  simp only [names, insert, Std.ExtTreeMap.mem_keys, Std.ExtTreeMap.mem_insert,
    Std.LawfulEqCmp.compare_eq_iff_eq]

/-- The listed names are those of the registrations, in lowercase. -/
theorem mem_names_ofCalls :
    name ∈ (ofCalls calls).names ↔ ∃ call ∈ calls, lowercase call.1 = name := by
  induction calls using List.reverseRecOn with
  | nil => simp [ofCalls, empty, names]
  | append_singleton calls call ih =>
    rw [ofCalls_append_singleton, mem_names_insert, ih]
    simp only [List.mem_append, List.mem_singleton, or_and_right, exists_or, exists_eq_left]
    exact or_comm

/-- Names are listed in the order of their bytes. -/
theorem pairwise_names (languages : Languages) :
    languages.names.Pairwise fun a b => bytes a < bytes b :=
  Std.ExtTreeMap.ordered_keys.imp fun less => Letters.bytes_lt_bytes.mpr (compare_lt_iff_lt.mp less)

/-- After any registrations, from no languages or from the built-in ones, a language is found if and
only if something is registered under its name in any letter case; it then has the dialect that was
registered last, and otherwise is reported by the name as it was given. One more registration
answers what was found before it, and changes nothing for other names. The listed names are those of
the registrations in lowercase, in the order of their bytes, and each is found. -/
theorem languages_of_history (history : History calls languages) :
    (∀ name, languages.find name =
      match latest? calls name with
      | some dialect => .ok dialect
      | none => .error (.unknownLanguage name)) ∧
    (∀ name, (∃ dialect, languages.find name = .ok dialect) ↔
      ∃ call ∈ calls, lowercase call.1 = lowercase name) ∧
    (∀ name dialect, (languages.register name dialect).1 = (languages.find name).toOption ∧
      ∀ other, lowercase other ≠ lowercase name →
        (languages.register name dialect).2.find other = languages.find other) ∧
    (languages.names.Pairwise fun a b => bytes a < bytes b) ∧
    (∀ name, name ∈ languages.names ↔ ∃ call ∈ calls, lowercase call.1 = name) ∧
    ∀ name ∈ languages.names, ∃ dialect, languages.find name = .ok dialect := by
  obtain rfl := history.eq_ofCalls
  have found : ∀ name, (∃ dialect, (ofCalls calls).find name = .ok dialect) ↔
      ∃ call ∈ calls, lowercase call.1 = lowercase name := by
    intro name
    simp only [find_eq_ok_iff, find?_ofCalls, ← Option.isSome_iff_exists, isSome_latest?_iff]
  refine ⟨fun name => ?_, found, fun name dialect => ⟨?_, fun other apart => ?_⟩,
    pairwise_names _, fun name => mem_names_ofCalls, fun name listed => ?_⟩
  · cases own : latest? calls name <;> simp only [find, find?_ofCalls, own]
  · exact toOption_find.symm
  · rw [find, find, register, find?_insert, if_neg (Ne.symm apart)]
  · -- A listed name is in lowercase, and so is its own lowercase form.
    obtain ⟨call, member, rfl⟩ := mem_names_ofCalls.mp listed
    exact (found _).mpr ⟨call, member, (lowercase_lowercase call.1).symm⟩

/-- A built-in dialect is replaced under its name in other letters, and a name that ends in a capital
sigma is listed, and found, with a final one but not with any other. -/
theorem languages_of_history_replaced :
    ∃ languages,
      History (builtInCalls ++ [("PHPDoc", .plain)] ++ [("ΟΔΟΣ", .typed .braces)]) languages ∧
        languages.find "phpDOC" = .ok .plain ∧
        (languages.register "Phpdoc" (.typed .dollar)).1 = some .plain ∧
        languages.find "οδοσ" = .error (.unknownLanguage "οδοσ") ∧
        "οδος" ∈ languages.names ∧ ∃ dialect, languages.find "οδος" = .ok dialect := by
  have history := (History.builtIn.register "PHPDoc" .plain).register "ΟΔΟΣ" (.typed .braces)
  obtain ⟨finds, -, registers, -, listed, listedFound⟩ := languages_of_history history
  have small : "οδος" ∈ _ := (listed "οδος").mpr ⟨("ΟΔΟΣ", .typed .braces), by simp, by decide⟩
  refine ⟨_, history, finds "phpDOC", ?_, finds "οδοσ", small, listedFound _ small⟩
  rw [(registers "Phpdoc" _).1, finds "Phpdoc"]
  rfl

end DocMarkdown.Languages
