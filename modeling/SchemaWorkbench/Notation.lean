import SchemaWorkbench.Notation.Column
import SchemaWorkbench.Notation.Header

/-!
# The notation

A schema is written line by line: a header opens a table, and a line that starts with a dash adds a
column to the table that is open. Every other line is ignored, and so is a column before the first
header. Whitespace around a line does not count.

## Main definitions

* `parse`: the schema of a text
* `tableHeader?`, `columnLine?`, `columnDefinition?`: the parts of the notation on strings
-/

namespace SchemaWorkbench

namespace Notation

open Text

/-- What a line of the notation does to the tables that are complete and the table that is open. -/
def readLine (state : Schema × Option Table) (line : List Char) : Schema × Option Table :=
  match header? line with
  | some name => (state.1 ++ state.2.toList, some { name := String.ofList name })
  | none =>
    if line.head? = some '-' then
      match state.2, columnLine? line with
      | some table, some column => (state.1, some (table.addColumn column))
      | _, _ => state
    else
      state

/-- The schema of the given lines. -/
def schemaOf (lines : List (List Char)) : Schema :=
  let (complete, open?) := lines.foldl readLine ([], none)
  complete ++ open?.toList

end Notation

/-- The schema that a text describes: of its lines, those are read that are not blank, without the
whitespace around them. -/
def parse (text : String) : Schema :=
  Notation.schemaOf (((Text.lines text.toList).map Text.trim).filter (· ≠ []))

/-- The name of the table that a line opens. -/
def tableHeader? (line : String) : Option String :=
  (Notation.header? line.toList).map String.ofList

/-- The column that a line describes. -/
def columnLine? (line : String) : Option Column :=
  Notation.columnLine? line.toList

/-- The column of a definition without the dash. -/
def columnDefinition? (definition : String) : Option Column :=
  Notation.columnDefinition? definition.toList

end SchemaWorkbench
