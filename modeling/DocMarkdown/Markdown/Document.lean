import DocMarkdown.Source.Documented
import DocMarkdown.Tags.Dialect

/-!
# Markdown documents

A document is a title and one subsection for each documented declaration that has a label. A
subsection shows the label, the description and the groups of tags, each part set off by an empty
line, and the groups as a list.

## Main definitions

* `Markdown.heading` — a heading of a given level
* `Markdown.groupLines` — a group as an item of a list
* `Markdown.subsection` — what is shown of one declaration
* `Markdown.document` — a whole document
* `Dialect.convert` — the document of a source text

## Main results

* `subsection_of_label_ne_nil` — the parts of a subsection
* `heading_infix_document` — every label has a heading
-/

namespace DocMarkdown

namespace Markdown

/-- A heading: as many number signs as its level, and its title. -/
def heading (level : Nat) (title : Text) : Text := List.replicate level '#' ++ ' ' :: title

/-- The text of an item in a list. -/
def itemText : Item → Text
  | .text t => t
  | .flag => []

/-- A group as an item of a list: its name alone if its items only say that they are there, its
name and the item on one line if there is just one, and else a list of its own. -/
def groupLines (name : String) (items : List Item) : Text :=
  if items.all (· = .flag) then " * **".toList ++ name.toList ++ "**".toList
  else
    " * **".toList ++ name.toList ++ ":**".toList ++
      match items with
      | [item] => ' ' :: itemText item
      | items => items.flatMap fun item => "\n   * ".toList ++ itemText item

/-- Groups as a list, each on a new line. -/
def groupList (groups : Groups) : Text :=
  groups.toList.flatMap fun (name, items) => '\n' :: groupLines name items

/-- What is shown of one declaration: nothing if it has no label. -/
def subsection (d : Dialect) (level : Nat) (documented : Documented) : Text :=
  let title := label documented.declaration
  if title.isEmpty then []
  else
    let comment := Comment.ofText documented.comment
    let groups := d.groups comment.tags
    "\n\n".toList ++ heading (level + 1) (inlineCode title) ++
      (if comment.description.isEmpty then [] else "\n\n".toList ++ comment.description) ++
      (if groups.isEmpty then [] else '\n' :: groupList groups)

variable {d : Dialect} {level : Nat} {documented : Documented}

theorem subsection_of_label_eq_nil (h : label documented.declaration = []) :
    subsection d level documented = [] :=
  if_pos (List.isEmpty_iff.mpr h)

/-- The parts of a subsection, which has a label. -/
theorem subsection_of_label_ne_nil (h : label documented.declaration ≠ []) :
    subsection d level documented =
      "\n\n".toList ++ heading (level + 1) (inlineCode (label documented.declaration)) ++
        (if (Comment.ofText documented.comment).description.isEmpty then []
          else "\n\n".toList ++ (Comment.ofText documented.comment).description) ++
        (if (d.groups (Comment.ofText documented.comment).tags).isEmpty then []
          else '\n' :: groupList (d.groups (Comment.ofText documented.comment).tags)) :=
  if_neg (mt List.isEmpty_iff.mp h)

/-- The title of a document. -/
def title (level : Nat) : Text := heading level "Documentation".toList

/-- A whole document, which ends its last line. -/
def document (d : Dialect) (level : Nat) (documented : List Documented) : Text :=
  title level ++ documented.flatMap (subsection d level) ++ ['\n']

/-- The document of a single declaration, described without tags. -/
theorem document_singleton_of_tagless (d : Dialect) (level : Nat)
    (named : label documented.declaration ≠ [])
    (tagless : (Comment.ofText documented.comment).tags = []) :
    document d level [documented] =
      title level ++
        ("\n\n".toList ++ heading (level + 1) (inlineCode (label documented.declaration)) ++
          (if (Comment.ofText documented.comment).description.isEmpty then []
            else "\n\n".toList ++ (Comment.ofText documented.comment).description)) ++ ['\n'] := by
  have none : (d.groups []).isEmpty = true := rfl
  rw [document, List.flatMap_singleton, subsection_of_label_ne_nil named, tagless, if_pos none,
    List.append_nil]

/-- A declaration that has a label has a heading in the document. -/
theorem heading_infix_document (d : Dialect) (level : Nat) {others : List Documented}
    (member : documented ∈ others) (h : label documented.declaration ≠ []) :
    heading (level + 1) (inlineCode (label documented.declaration)) <:+:
      document d level others := by
  have inside : subsection d level documented <:+: others.flatMap (subsection d level) :=
    List.infix_of_mem_flatten (List.mem_map_of_mem member)
  refine List.IsInfix.trans ?_ (inside.trans ⟨title level, ['\n'], rfl⟩)
  rw [subsection_of_label_ne_nil h, List.append_assoc]
  exact List.infix_append _ _ _

end Markdown

/-- The document of a source text, with a title of the given heading level. -/
def Dialect.convert (d : Dialect) (code : String) (level : Nat) : String :=
  String.ofList (Markdown.document d level (documentedIn code.toList))

end DocMarkdown
