import DocMarkdown.Text.Blank

/-!
# Splitting a text into fields

The value of a tag is a few words followed by prose. A bounded split takes the words off one at a
time and leaves the prose as it stands, line breaks included.

## Main definitions

* `Text.splitWord` — the first word of a text and what follows it
* `Text.fields` — a given number of fields, the last of which keeps the remainder
-/

namespace DocMarkdown.Text

/-- The longest front of a text without blanks, and what follows the blanks after it. A text that
begins with a blank has the empty first word. -/
def splitWord (t : Text) : Text × Text :=
  (t.takeWhile (!isBlank ·), trimStart (t.dropWhile (!isBlank ·)))

/-- The first `words` words of a text and then its remainder; words that are missing are empty. -/
def splitWords : (words : Nat) → Text → List Text
  | 0, t => [t]
  | words + 1, t => (splitWord t).1 :: splitWords words (splitWord t).2

/-- Exactly `limit` fields, at least one: words, and in the last place the remainder verbatim. -/
def fields (limit : Nat) (t : Text) : List Text := splitWords (limit - 1) t

-- The last field keeps its own spacing; what is missing is empty.
example : fields 3 "int  x the  rest".toList = ["int", "x", "the  rest"].map String.toList := by
  decide

example : fields 3 "x".toList = ["x", "", ""].map String.toList := by decide

@[simp] theorem length_splitWords (words : Nat) (t : Text) :
    (splitWords words t).length = words + 1 := by
  induction words generalizing t with
  | zero => rfl
  | succ words ih => simp [splitWords, ih]

/-- There are `limit` fields, or one where none is asked for. -/
theorem length_fields (limit : Nat) (t : Text) : (fields limit t).length = max limit 1 := by
  rw [fields, length_splitWords]
  omega

end DocMarkdown.Text
