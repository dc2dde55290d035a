import DocMarkdown.Error
import DocMarkdown.Letters.Lowercase
import DocMarkdown.Markdown.Document
import Std.Data.ExtTreeMap

/-!
# Languages by name

Dialects are known by the names of the languages whose comments they are used in. The letter case of
a name does not matter.

## Main definitions

* `Languages` — dialects by lowercase names
* `Languages.find` — the dialect of a language
* `Languages.register` — one more language, and the dialect that it replaces
* `Languages.builtIn` — the built-in languages
* `convert` — the document of a source text in a built-in language

## Main results

* `find?_insert` — a new language changes what its own name means, in any letter case, and nothing
  else
-/

namespace DocMarkdown

/-- Dialects by the lowercase names of languages. -/
structure Languages where
  dialects : Std.ExtTreeMap String Dialect

namespace Languages

variable (languages : Languages)

/-- No languages. -/
def empty : Languages := ⟨∅⟩

/-- The dialect of a language, by its name in any letter case. -/
def find? (name : String) : Option Dialect := languages.dialects[Letters.lowercase name]?

/-- The dialect of a language; an unknown language is reported by the name it is asked for. -/
def find (name : String) : Except Error Dialect :=
  match languages.find? name with
  | some dialect => .ok dialect
  | none => .error (.unknownLanguage name)

/-- One more language, which replaces the one of the same name. -/
def insert (name : String) (dialect : Dialect) : Languages :=
  ⟨languages.dialects.insert (Letters.lowercase name) dialect⟩

/-- One more language, and the dialect of the same name that it replaces. -/
def register (name : String) (dialect : Dialect) : Option Dialect × Languages :=
  (languages.find? name, languages.insert name dialect)

/-- The lowercase names of the languages, in increasing order. -/
def names : List String := languages.dialects.keys

/-- The document of a source text in a language. -/
def convert (language code : String) (level : Nat) : Except Error String :=
  (languages.find language).map (·.convert code level)

/-- The built-in languages: Javadoc, which leaves types to the code, and PHPDoc and JSDoc, which
write them in the comment. -/
def builtIn : Languages :=
  ((empty.insert "javadoc" .plain).insert "phpdoc" (.typed .dollar)).insert "jsdoc" (.typed .braces)

@[simp] theorem find?_empty (name : String) : empty.find? name = none := by
  simp [find?, empty]

/-- A new language changes what its own name means, in any letter case, and nothing else. -/
theorem find?_insert (name other : String) (dialect : Dialect) :
    (languages.insert name dialect).find? other =
      if Letters.lowercase name = Letters.lowercase other then some dialect
      else languages.find? other := by
  simp only [find?, insert, Std.ExtTreeMap.getElem?_insert, Std.LawfulEqCmp.compare_eq_iff_eq]

end Languages

/-- The document of a source text in a built-in language. -/
def convert (language code : String) (level : Nat) : Except Error String :=
  Languages.builtIn.convert language code level

end DocMarkdown
