import SchemaWorkbench.Export.Java
import SchemaWorkbench.Export.TypeScript
import SchemaWorkbench.Interchange.Document

/-!
# Export formats

Everything that a schema can be turned into. SQL is the one format that is not made here: it comes
from the generation service.

## Main definitions

* `Format`, `Format.ofName?`
* `Format.render?`: the text of a schema in a format
-/

namespace SchemaWorkbench.Export

/-- What a schema can be turned into. -/
inductive Format where
  | sql
  | json
  | typeScript
  | javaEntity
  deriving DecidableEq, Repr

namespace Format

/-- The formats in the order in which they are offered. -/
def all : List Format := [sql, json, typeScript, javaEntity]

/-- The name of a format for display. -/
def displayName : Format → String
  | sql => "SQL"
  | json => "JSON"
  | typeScript => "TypeScript"
  | javaEntity => "Java Entity"

/-- The extension of the files of a format, which is also a name of the format. -/
def extension : Format → String
  | sql => "sql"
  | json => "json"
  | typeScript => "ts"
  | javaEntity => "java"

/-- The name of a file of a format for which no name is given. -/
def defaultFileName : Format → String
  | sql => "schema.sql"
  | json => "sql-tables.json"
  | typeScript => "schema.ts"
  | javaEntity => "Entities.java"

/-- The format with a name, in any letter case. -/
def ofName? (s : String) : Option Format :=
  match Text.lowercase s with
  | "sql" => some sql
  | "json" => some json
  | "typescript" | "ts" => some typeScript
  | "java" | "java entity" | "java-entity" | "jpa" => some javaEntity
  | _ => none

/-- The text of a schema in a format; there is none for SQL. -/
def render? (s : Schema) : Format → Option String
  | sql => none
  | json => some s.interchangeText
  | typeScript => some (TypeScript.text s)
  | javaEntity => some (Java.text s)

end Format

end SchemaWorkbench.Export
