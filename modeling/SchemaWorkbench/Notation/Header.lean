import SchemaWorkbench.Text.Whitespace

/-!
# Table headers

A table starts with a line `table <name>`, with or without a colon at its end.

## Main definitions

* `header?`: the name of the table that a line starts
-/

namespace SchemaWorkbench.Notation

open Text

/-- The word that a header starts with. -/
def headerWord : List Char := ['t', 'a', 'b', 'l', 'e']

/-- The name without one colon at its end. -/
def dropColon (cs : List Char) : List Char :=
  if cs.getLast? = some ':' then cs.dropLast else cs

/-- The name of the table that a line starts: after the word `table`, in any case, and at least one
whitespace character. -/
def header? (line : List Char) : Option (List Char) :=
  let line := trim line
  let rest := line.drop 5
  if (line.take 5).map Char.toLower = headerWord ∧ (rest.head?.any isWhitespace) then
    some (trim (dropColon (trim rest)))
  else
    none

end SchemaWorkbench.Notation
