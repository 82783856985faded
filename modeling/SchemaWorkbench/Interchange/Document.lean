import SchemaWorkbench.Json.Printer
import SchemaWorkbench.Schema.Codec
import SchemaWorkbench.Text.Whitespace

/-!
# Interchange documents

The file format in which schemas are exchanged: the tables, and the dialect for which SQL was last
generated from them. In a document made from a schema a blank reference or default value counts as
none.

## Main definitions

* `Document`, `Document.ofSchema`, `Document.withDialect`
* `Document.toJson`, `Document.ofJson`: the faithful form of a document
* `Document.text`: the text of a document
* `Schema.interchangeText`: the text of a schema
-/

namespace SchemaWorkbench

open Json

/-- A schema with the dialect for which SQL was last generated from it. -/
structure Document where
  tables : Schema
  dialect : Option String := none
  deriving DecidableEq, Repr

/-- The string holds nothing but whitespace. -/
def isBlank (s : String) : Bool :=
  Text.isBlank s.toList

/-- The column without a blank reference or default value. -/
def Column.dropBlanks (c : Column) : Column :=
  { c with
    reference := c.reference.filter (!isBlank ·)
    defaultValue := c.defaultValue.filter (!isBlank ·) }

/-- The table without blank references and default values. -/
def Table.dropBlanks (t : Table) : Table :=
  { t with columns := t.columns.map Column.dropBlanks }

namespace Document

/-- The document of a schema. -/
def ofSchema (s : Schema) : Document :=
  { tables := s.map Table.dropBlanks }

/-- The document with a dialect. -/
def withDialect (d : Document) (dialect : String) : Document :=
  { d with dialect := some dialect }

/-- A document as a JSON value. -/
def toJson (d : Document) : Json :=
  .obj <|
    ("tables", Schema.toJson d.tables) ::
      match d.dialect with
      | some dialect => [("dialect", .str dialect)]
      | none => []

/-- The record type of documents. -/
def recordType : RecordType := ⟨"InterchangeDocument", 2⟩

/-- A document from the members of an object. -/
def ofMembers (members : List (String × Json)) : Except ShapeError Document := do
  let dialect ← memberAt? members "dialect" (asOptional asText)
  let tables ← memberAt? members "tables" Schema.ofJson
  return { tables := ← mandatory "tables" tables, dialect := dialect.getD none }

/-- A document from the items of an array. -/
def ofItems (items : List Json) : Except ShapeError Document := do
  let tables ← itemAt recordType items 0 Schema.ofJson
  let dialect ← itemAt? items 1 (asOptional asText)
  return { tables, dialect := dialect.getD none }

/-- The document that a JSON value describes. -/
def ofJson : Json → Except ShapeError Document := asRecord recordType ofMembers ofItems

/-- The text of a document. -/
def text (d : Document) : String := d.toJson.pretty

end Document

/-- The text of the document of a schema. -/
def Schema.interchangeText (s : Schema) : String :=
  (Document.ofSchema s).text

end SchemaWorkbench
