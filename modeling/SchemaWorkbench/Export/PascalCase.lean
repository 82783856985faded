import SchemaWorkbench.Text.Casing
import SchemaWorkbench.Text.Pieces

/-!
# Type names

The name of a generated type joins the segments of a table name: the texts between its underscores,
each with a capital first letter and small letters after it.

## Main definitions

* `capitalize`: a segment with a capital first letter
* `pascalCase`: the name of the type of a table
-/

namespace SchemaWorkbench.Export

open Text

/-- The segment with its first character in upper case and all others in lower case. -/
def capitalize : List Char → List Char
  | [] => []
  | c :: cs => upperChar c ++ cs.flatMap lowerChar

/-- The name of the type of a table. -/
def pascalCase (name : String) : String :=
  String.ofList ((pieces (· = '_') name.toList).flatMap capitalize)

end SchemaWorkbench.Export
