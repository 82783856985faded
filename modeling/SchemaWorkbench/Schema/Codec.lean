import SchemaWorkbench.Json.Shape
import SchemaWorkbench.Schema.Basic

/-!
# Schemas as JSON values

The faithful form of a schema. Writing spells out every field of a column and leaves out a table's
relations when there are none. Reading is strict: every field has its own kind of value, and only
fields that have a natural default may be missing. Unknown members are ignored. When several fields
are at fault, the one whose key is alphabetically first is reported, and a missing field only when
no field that is there is at fault.

## Main definitions

* `Column.toJson`, `Relation.toJson`, `Table.toJson`: writing
* `Column.ofJson`, `Relation.ofJson`, `Table.ofJson`: reading
-/

namespace SchemaWorkbench

open Json

/-- A text or null. -/
def Json.ofText? : Option String → Json
  | some s => .str s
  | none => .null

namespace Cardinality

/-- The cardinalities by name. -/
def names : List (String × Cardinality) :=
  [("oneToOne", oneToOne), ("oneToMany", oneToMany), ("manyToMany", manyToMany)]

/-- The name of a cardinality. -/
def name : Cardinality → String
  | oneToOne => "oneToOne"
  | oneToMany => "oneToMany"
  | manyToMany => "manyToMany"

/-- A cardinality as a JSON value. -/
def toJson (c : Cardinality) : Json := .str c.name

/-- The cardinality that a JSON value names. -/
def ofJson : Json → Except ShapeError Cardinality := asChoice names

end Cardinality

namespace Column

/-- A column as a JSON value. -/
def toJson (c : Column) : Json :=
  .obj
    [ ("name", .str c.name), ("type", .str c.type), ("primaryKey", .bool c.primaryKey),
      ("autoIncrement", .bool c.autoIncrement), ("required", .bool c.required),
      ("unique", .bool c.unique), ("defaultValue", Json.ofText? c.defaultValue),
      ("reference", Json.ofText? c.reference) ]

/-- The record type of columns. -/
def recordType : RecordType := ⟨"Column", 8⟩

/-- The type of a column, which may also be called `typ`. -/
def typeMember? (members : List (String × Json)) : Except ShapeError (Option String) := do
  let short ← memberAt? members "typ" asText
  if short.isSome && (lookup? members "type").isSome then
    throw (.duplicateField "type")
  let long ← memberAt? members "type" asText
  return long <|> short

/-- A column from the members of an object. -/
def ofMembers (members : List (String × Json)) : Except ShapeError Column := do
  let autoIncrement ← memberAt? members "autoIncrement" asFlag
  let defaultValue ← memberAt? members "defaultValue" (asOptional asText)
  let name ← memberAt? members "name" asText
  let primaryKey ← memberAt? members "primaryKey" asFlag
  let reference ← memberAt? members "reference" (asOptional asText)
  let isRequired ← memberAt? members "required" asFlag
  let type ← typeMember? members
  let unique ← memberAt? members "unique" asFlag
  return {
    name := ← mandatory "name" name
    type := ← mandatory "type" type
    primaryKey := primaryKey.getD false
    autoIncrement := autoIncrement.getD false
    required := isRequired.getD false
    unique := unique.getD false
    defaultValue := defaultValue.getD none
    reference := reference.getD none }

/-- A column from the items of an array. -/
def ofItems (items : List Json) : Except ShapeError Column := do
  let name ← itemAt recordType items 0 asText
  let type ← itemAt recordType items 1 asText
  let primaryKey ← itemAt? items 2 asFlag
  let autoIncrement ← itemAt? items 3 asFlag
  let isRequired ← itemAt? items 4 asFlag
  let unique ← itemAt? items 5 asFlag
  let defaultValue ← itemAt? items 6 (asOptional asText)
  let reference ← itemAt? items 7 (asOptional asText)
  return {
    name
    type
    primaryKey := primaryKey.getD false
    autoIncrement := autoIncrement.getD false
    required := isRequired.getD false
    unique := unique.getD false
    defaultValue := defaultValue.getD none
    reference := reference.getD none }

/-- The column that a JSON value describes. -/
def ofJson : Json → Except ShapeError Column := asRecord recordType ofMembers ofItems

end Column

namespace Relation

/-- A relation as a JSON value. -/
def toJson (r : Relation) : Json :=
  .obj
    [ ("sourceTable", .str r.sourceTable), ("sourceColumn", .str r.sourceColumn),
      ("targetTable", .str r.targetTable), ("targetColumn", .str r.targetColumn),
      ("relationType", r.cardinality.toJson) ]

/-- The record type of relations. -/
def recordType : RecordType := ⟨"TableRelation", 5⟩

/-- A relation from the members of an object. -/
def ofMembers (members : List (String × Json)) : Except ShapeError Relation := do
  let cardinality ← memberAt? members "relationType" Cardinality.ofJson
  let sourceColumn ← memberAt? members "sourceColumn" asText
  let sourceTable ← memberAt? members "sourceTable" asText
  let targetColumn ← memberAt? members "targetColumn" asText
  let targetTable ← memberAt? members "targetTable" asText
  return {
    sourceTable := ← mandatory "sourceTable" sourceTable
    sourceColumn := ← mandatory "sourceColumn" sourceColumn
    targetTable := ← mandatory "targetTable" targetTable
    targetColumn := ← mandatory "targetColumn" targetColumn
    cardinality := ← mandatory "relationType" cardinality }

/-- A relation from the items of an array. -/
def ofItems (items : List Json) : Except ShapeError Relation := do
  let sourceTable ← itemAt recordType items 0 asText
  let sourceColumn ← itemAt recordType items 1 asText
  let targetTable ← itemAt recordType items 2 asText
  let targetColumn ← itemAt recordType items 3 asText
  let cardinality ← itemAt recordType items 4 Cardinality.ofJson
  return { sourceTable, sourceColumn, targetTable, targetColumn, cardinality }

/-- The relation that a JSON value describes. -/
def ofJson : Json → Except ShapeError Relation := asRecord recordType ofMembers ofItems

end Relation

namespace Table

/-- A table as a JSON value. -/
def toJson (t : Table) : Json :=
  .obj <|
    [("name", .str t.name), ("columns", .arr (t.columns.map Column.toJson))]
      ++ if t.relations = [] then [] else [("relations", .arr (t.relations.map Relation.toJson))]

/-- The record type of tables. -/
def recordType : RecordType := ⟨"Table", 3⟩

/-- A table from the members of an object. -/
def ofMembers (members : List (String × Json)) : Except ShapeError Table := do
  let columns ← memberAt? members "columns" (asList Column.ofJson)
  let name ← memberAt? members "name" asText
  let relations ← memberAt? members "relations" (asList Relation.ofJson)
  return {
    name := ← mandatory "name" name
    columns := ← mandatory "columns" columns
    relations := relations.getD [] }

/-- A table from the items of an array. -/
def ofItems (items : List Json) : Except ShapeError Table := do
  let name ← itemAt recordType items 0 asText
  let columns ← itemAt recordType items 1 (asList Column.ofJson)
  let relations ← itemAt? items 2 (asList Relation.ofJson)
  return { name, columns, relations := relations.getD [] }

/-- The table that a JSON value describes. -/
def ofJson : Json → Except ShapeError Table := asRecord recordType ofMembers ofItems

end Table

/-- A schema as a JSON value. -/
def Schema.toJson (s : Schema) : Json :=
  .arr (s.map Table.toJson)

/-- The schema that a JSON value describes. -/
def Schema.ofJson : Json → Except ShapeError Schema := asList Table.ofJson

end SchemaWorkbench
