import SchemaWorkbench.Json.Shape
import SchemaWorkbench.Text.Casing
import SchemaWorkbench.Text.Whitespace

/-!
# SQL dialects

## Main definitions

* `Dialect`, `Dialect.name`: the dialects with their exact names
* `Dialect.ofName?`: the dialect with a name, leniently
* `Dialect.toJson`, `Dialect.ofJson`: the exact name as a JSON value
-/

namespace SchemaWorkbench

/-- A dialect of SQL that the generation service understands. -/
inductive Dialect where
  | mySql
  | postgreSql
  | sqlite
  | sqlServer
  deriving DecidableEq, Repr

namespace Dialect

/-- The dialects in the order in which they are offered. -/
def all : List Dialect := [mySql, postgreSql, sqlite, sqlServer]

/-- The exact name of a dialect. -/
def name : Dialect → String
  | mySql => "MySQL"
  | postgreSql => "PostgreSQL"
  | sqlite => "SQLite"
  | sqlServer => "SQL Server"

/-- The dialects by their exact names. -/
def names : List (String × Dialect) :=
  all.map fun d => (d.name, d)

/-- A separator of words becomes a space. -/
def spaced (c : Char) : Char :=
  if c = '_' ∨ c = '-' then ' ' else c

/-- The dialect with a name, in any letter case, with any separator of words and under its usual
short forms. -/
def ofName? (s : String) : Option Dialect :=
  match String.ofList ((Text.lower (Text.trim s.toList)).map spaced) with
  | "mysql" => some mySql
  | "postgresql" | "postgres" | "pg" => some postgreSql
  | "sqlite" => some sqlite
  | "sql server" | "sqlserver" | "mssql" => some sqlServer
  | _ => none

/-- A dialect as a JSON value. -/
def toJson (d : Dialect) : Json := .str d.name

/-- The dialect that a JSON value names exactly. -/
def ofJson : Json → Except Json.ShapeError Dialect := Json.asChoice names

end Dialect

end SchemaWorkbench
