import SchemaWorkbench.Export.PascalCase
import SchemaWorkbench.Schema.Basic
import SchemaWorkbench.Schema.ColumnType

/-!
# TypeScript interfaces

One interface for each table, with one property for each column; the property of a column that need
not have a value is optional.

## Main definitions

* `TypeScript.typeName`: the type of a column
* `TypeScript.text`: the interfaces of a schema
-/

namespace SchemaWorkbench.Export.TypeScript

/-- The TypeScript type of a column type. -/
def typeName (type : String) : String :=
  match baseType type with
  | "INT" | "INTEGER" | "BIGINT" => "number"
  | "VARCHAR" | "TEXT" => "string"
  | "DATE" | "DATETIME" | "TIMESTAMP" => "Date"
  | "BOOLEAN" => "boolean"
  | _ => "any"

/-- The property of a column. -/
def property (c : Column) : String :=
  "  " ++ c.name ++ (if c.required then "" else "?") ++ ": " ++ typeName c.type ++ ";\n"

/-- The interface of a table. -/
def interface (t : Table) : String :=
  "interface " ++ pascalCase t.name ++ " \x7b\n" ++ String.join (t.columns.map property) ++ "\x7d\n\n"

/-- The interfaces of a schema. -/
def text (s : Schema) : String :=
  String.join (s.map interface)

end SchemaWorkbench.Export.TypeScript
