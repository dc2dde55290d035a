import DocMarkdown.Letters.FoldingTable

/-!
# Characters that differ in case only

Two characters differ in case only if the case folding of Unicode takes them to the same character.

## Main definitions

* `CharSet.anyCase` — a set together with all characters that differ in case only from one in it
-/

namespace DocMarkdown

/-- A set together with all characters that differ in case only from one in it. Folding adds
the folded forms of its characters, and the way back all that has these. -/
def CharSet.anyCase (s : CharSet) : CharSet :=
  (s.addImages Letters.foldingRuns).addImages (Letters.foldingRuns.map Run.inverse)

end DocMarkdown
