import DocMarkdown.Markdown.Inline

/-!
# Types written in comments

Where the source language leaves types out, the comment states them. How a type and a parameter's
name are written down differs between the comment styles; so does what is shown when a tag does
not have the expected form.

## Main definitions

* `TypeStyle` — how a type, and a parameter with its type, are shown
* `TypeStyle.dollar` — `string $name`: the name has a dollar sign
* `TypeStyle.braces` — `{string} name`: the type stands in braces
-/

namespace DocMarkdown

/-- How types in comments are shown. -/
structure TypeStyle where
  /-- A type by itself. -/
  showType : (type : Text) → Text
  /-- A parameter, from the two words that should be its type and its name. -/
  showParameter : (type name : Text) → Text

namespace TypeStyle

/-- The characters of a variable's name. -/
def isNameChar (c : Char) : Bool := c.isAlphanum || c == '_' || c == '$'

/-- A variable: a dollar sign and a name that is not empty. -/
def isVariable (t : Text) : Bool :=
  match t with
  | '$' :: name => !name.isEmpty && name.all isNameChar
  | _ => false

/-- Types as they stand, before a name with a dollar sign: `string $name`. Without such a name the
first word alone is shown, as the type. -/
def dollar : TypeStyle where
  showType := inlineCode
  showParameter type name :=
    if isVariable name then inlineCode name ++ dash ++ inlineCode type else inlineCode type

/-- What a text in braces holds: `none` for a text that is not in braces. -/
def inBraces? (t : Text) : Option Text :=
  match t with
  | '{' :: rest => if rest.getLast? = some '}' then some rest.dropLast else none
  | _ => none

/-- Types in braces: `{string} name`. A type without its braces is shown as it stands; a parameter
whose first word is not a type in one pair of braces is shown as that word. -/
def braces : TypeStyle where
  showType type := inlineCode ((inBraces? type).getD type)
  showParameter type name :=
    match inBraces? type with
    | some inner =>
      if !inner.isEmpty && inner.all (fun c => !(c == '{' || c == '}')) then
        inlineCode name ++ dash ++ inlineCode inner
      else inlineCode type
    | none => inlineCode type

example : dollar.showParameter "int".toList "$n".toList = "`$n` — `int`".toList := by decide

-- Without a name that has a dollar sign the second word is dropped.
example : dollar.showParameter "$n".toList "the".toList = "`$n`".toList := by decide

example : braces.showParameter "\x7bint\x7d".toList "n".toList = "`n` — `int`".toList := by decide

-- Empty braces hold no type.
example : braces.showParameter "\x7b\x7d".toList "n".toList = "`\x7b\x7d`".toList := by decide

end TypeStyle

end DocMarkdown
