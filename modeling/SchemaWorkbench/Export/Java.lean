import SchemaWorkbench.Export.PascalCase
import SchemaWorkbench.Schema.Basic
import SchemaWorkbench.Schema.ColumnType

/-!
# Java entities

One annotated class for each table, with one field for each column. Nothing is written for an empty
schema.

## Main definitions

* `Java.typeName`: the type of a column
* `Java.text`: the classes of a schema
-/

namespace SchemaWorkbench.Export.Java

/-- The Java type of a column type. -/
def typeName (type : String) : String :=
  match baseType type with
  | "INT" | "INTEGER" => "Integer"
  | "BIGINT" => "Long"
  | "VARCHAR" | "TEXT" => "String"
  | "DATE" | "DATETIME" | "TIMESTAMP" => "LocalDateTime"
  | _ => "Object"

/-- What stands before the first class. -/
def header : String :=
  "import jakarta.persistence.*;\nimport java.time.LocalDateTime;\n\n"

/-- The field of a column. -/
def field (c : Column) : String :=
  (if c.primaryKey then "    @Id\n" else "")
    ++ (if c.autoIncrement then "    @GeneratedValue(strategy = GenerationType.IDENTITY)\n" else "")
    ++ "    private " ++ typeName c.type ++ " " ++ c.name ++ ";\n"

/-- The class of a table. -/
def entity (t : Table) : String :=
  "@Entity\n@Table(name = \"" ++ t.name ++ "\")\npublic class " ++ pascalCase t.name ++ " \x7b\n"
    ++ String.join (t.columns.map field) ++ "\x7d\n\n"

/-- The classes of a schema. -/
def text (s : Schema) : String :=
  if s = [] then "" else header ++ String.join (s.map entity)

end SchemaWorkbench.Export.Java
