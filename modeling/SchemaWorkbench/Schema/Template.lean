import SchemaWorkbench.Schema.Basic
import SchemaWorkbench.Schema.ColumnType

/-!
# Ready-made columns

## Main definitions

* `Template`: the kinds of ready-made columns
* `Template.ofName?`: the kind with a given name
* `Template.column`: the column that a kind stands for
-/

namespace SchemaWorkbench

/-- A kind of ready-made column. -/
inductive Template where
  | id
  | timestamp
  | foreignKey
  deriving DecidableEq, Repr

namespace Template

/-- The kinds in the order in which they are offered. -/
def all : List Template := [id, timestamp, foreignKey]

/-- The name under which a kind is offered. -/
def name : Template → String
  | id => "id"
  | timestamp => "timestamp"
  | foreignKey => "foreign_key"

/-- The kind with a name, in any letter case. -/
def ofName? (s : String) : Option Template :=
  match Text.lowercase s with
  | "id" => some id
  | "timestamp" | "created_at" => some timestamp
  | "foreign_key" | "foreignkey" | "fk" => some foreignKey
  | _ => none

/-- The column that a kind stands for. -/
def column : Template → Column
  | id =>
    { name := "id", type := resolve "entier", primaryKey := true, autoIncrement := true,
      required := true, unique := true }
  | timestamp =>
    { name := "created_at", type := resolve "date", required := true,
      defaultValue := some currentTimestamp }
  | foreignKey => { name := "foreign_id", type := resolve "entier", required := true }

end Template

end SchemaWorkbench
