import SchemaWorkbench.Export.Java
import SchemaWorkbench.Export.TypeScript
import SchemaWorkbench.Schema.Basic

/-!
# Listings

What the command line shows of a schema and of the notation. Columns of a listing are padded to a
width, counted in characters.

## Main definitions

* `padded`: a text padded to a width
* `listing`: a schema, table by table
* `typeReference`: the words for types and the flags
-/

namespace SchemaWorkbench.CommandLine

/-- The text with spaces after it up to a width. -/
def padded (width : Nat) (s : String) : String :=
  s ++ String.ofList (List.replicate (width - s.length) ' ')

/-- The name of a cardinality in a listing. -/
def cardinalityName : Cardinality → String
  | .oneToOne => "OneToOne"
  | .oneToMany => "OneToMany"
  | .manyToMany => "ManyToMany"

/-- The flags of a column. -/
def flagList (c : Column) : List String :=
  (if c.primaryKey then ["pk"] else []) ++ (if c.autoIncrement then ["auto"] else [])
    ++ (if c.required then ["required"] else []) ++ (if c.unique then ["unique"] else [])
    ++ (c.reference.map ("→ " ++ ·)).toList ++ (c.defaultValue.map ("= " ++ ·)).toList

/-- The line of a column. -/
def columnListing (c : Column) : String :=
  "  • " ++ padded 20 c.name ++ " " ++ padded 15 c.type ++ " " ++ " ".intercalate (flagList c)
    ++ "\n"

/-- The line of a relation. -/
def relationListing (r : Relation) : String :=
  "  ↔ " ++ r.sourceTable ++ "." ++ r.sourceColumn ++ " " ++ cardinalityName r.cardinality ++ " "
    ++ r.targetTable ++ "." ++ r.targetColumn ++ "\n"

/-- The lines of a table. -/
def tableListing (t : Table) : String :=
  "table " ++ t.name ++ "\n" ++ String.join (t.columns.map columnListing)
    ++ String.join (t.relations.map relationListing)

/-- The lines of a schema. -/
def listing (s : Schema) : String :=
  if s = [] then "(no tables)\n" else String.join (s.map tableListing)

/-- A line of the type reference. -/
def typeRow (word sql typeScript java : String) : String :=
  padded 15 word ++ " " ++ padded 15 sql ++ " " ++ padded 12 typeScript ++ " " ++ java ++ "\n"

/-- The flags of the notation with their meanings. -/
def flagMeanings : List (String × String) :=
  [ ("clé primaire", "primary key"), ("auto", "auto increment"),
    ("requis", "required (NOT NULL)"), ("unique", "unique"),
    ("référence: t.c", "reference to another table"),
    ("par défaut: v", "default value (maintenant / aujourd'hui → CURRENT_TIMESTAMP)") ]

/-- The words for types with what they become, and the flags. -/
def typeReference : String :=
  "🧱 tablesmith Type Reference\n\n" ++ typeRow "Type" "SQL" "TypeScript" "Java"
    ++ String.ofList (List.replicate 60 '─') ++ "\n"
    ++ String.join (domainWords.map fun (word, type) =>
      typeRow word type (Export.TypeScript.typeName type) (Export.Java.typeName type))
    ++ "\nFlags:\n"
    ++ String.join (flagMeanings.map fun (flag, meaning) =>
      "  " ++ padded 18 flag ++ " " ++ meaning ++ "\n")

end SchemaWorkbench.CommandLine
