/-!
# Schemas

A schema is a list of tables, a table a list of columns with descriptive links to other tables.
Names are free text: nothing asks them to be unique or to refer to something that exists.

## Main definitions

* `Column`, `Relation`, `Table`, `Schema`
* `currentTimestamp`: the default value that stands for the time of insertion
-/

namespace SchemaWorkbench

/-- A column with its canonical type. -/
structure Column where
  name : String
  type : String
  primaryKey : Bool := false
  autoIncrement : Bool := false
  required : Bool := false
  unique : Bool := false
  defaultValue : Option String := none
  /-- What the column points to, usually `table.column`. -/
  reference : Option String := none
  deriving DecidableEq, Repr

/-- How many rows a link joins on either side. -/
inductive Cardinality where
  | oneToOne
  | oneToMany
  | manyToMany
  deriving DecidableEq, Repr

/-- A descriptive link between two columns. -/
structure Relation where
  sourceTable : String
  sourceColumn : String
  targetTable : String
  targetColumn : String
  cardinality : Cardinality
  deriving DecidableEq, Repr

/-- A table. -/
structure Table where
  name : String
  columns : List Column := []
  relations : List Relation := []
  deriving DecidableEq, Repr

/-- The tables of a database, in order. -/
abbrev Schema := List Table

/-- The default value that stands for the time of insertion. -/
def currentTimestamp : String := "CURRENT_TIMESTAMP"

namespace Column

/-- The column as a primary key. -/
def asPrimaryKey (c : Column) : Column := { c with primaryKey := true }

/-- The column as one that counts by itself. -/
def asAutoIncrement (c : Column) : Column := { c with autoIncrement := true }

/-- The column as one that must have a value. -/
def asRequired (c : Column) : Column := { c with required := true }

/-- The column as one without repeated values. -/
def asUnique (c : Column) : Column := { c with unique := true }

/-- The column with a default value. -/
def withDefault (c : Column) (value : String) : Column := { c with defaultValue := some value }

/-- The column with what it points to. -/
def referencing (c : Column) (target : String) : Column := { c with reference := some target }

end Column

/-- The table with one more column, after the others. -/
def Table.addColumn (t : Table) (c : Column) : Table :=
  { t with columns := t.columns ++ [c] }

/-- The table with one more relation, after the others. -/
def Table.addRelation (t : Table) (r : Relation) : Table :=
  { t with relations := t.relations ++ [r] }

end SchemaWorkbench
