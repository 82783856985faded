import SchemaWorkbench.Interchange.Document
import SchemaWorkbench.Notation

/-!
# Importing interchange documents

Import is stricter than the faithful form about what a schema must have, and more lenient about how
it is written. There must be a table; tables and columns must have names, and columns types, that
are not blank. Any value can stand for a flag, texts of another kind or blank ones count as none,
and what is not known is ignored.

## Main definitions

* `ImportError`: why a document is refused
* `Document.ofText`: the document of a text
* `Schema.load`: the schema of a text, which is a document or in the notation
-/

namespace SchemaWorkbench

open Json

/-- Why a document is refused. -/
inductive ImportError where
  /-- There is no list of tables, or it is empty. -/
  | noTables
  /-- A table has no name or no list of columns. -/
  | invalidTable (index : Nat)
  /-- A column has no name or no type. -/
  | incompleteColumn (table : String) (index : Nat)
  /-- The text breaks the grammar, or the relations of a table do not fit. -/
  | json (cause : Json.Error)

/-- The wording of a refusal. -/
def ImportError.message : ImportError → String
  | noTables => "No tables found in JSON"
  | invalidTable index =>
    "Invalid table structure (table #" ++ toString index
      ++ "): expected a non-empty name and a columns array"
  | incompleteColumn table index =>
    "Column missing required fields (table '" ++ table ++ "', column #" ++ toString index
      ++ "): name and type are required"
  | json cause => "Invalid JSON format: " ++ cause.message

namespace Import

/-- The text under a key, unless it is blank or the value is of another kind. -/
def text? (key : String) (v : Json) : Option String :=
  ((v.member? key).bind Json.text?).filter (!isBlank ·)

/-- The list under a key. -/
def list? (key : String) (v : Json) : Option (List Json) :=
  (v.member? key).bind Json.items?

/-- The value stands for a flag that is set: everything but null, false, zero and the empty
text. -/
def isTruthy : Json → Bool
  | .null => false
  | .bool b => b
  | .num n => !n.isZero
  | .str s => s ≠ ""
  | .arr _ => true
  | .obj _ => true

/-- The flag under a key. -/
def flag (key : String) (v : Json) : Bool :=
  (v.member? key).any isTruthy

/-- The column that a value describes, if it has a name and a type. -/
def column? (v : Json) : Option Column := do
  let name ← text? "name" v
  let type ← text? "type" v
  return {
    name
    type
    primaryKey := flag "primaryKey" v
    autoIncrement := flag "autoIncrement" v
    required := flag "required" v
    unique := flag "unique" v
    defaultValue := text? "defaultValue" v
    reference := text? "reference" v }

/-- The columns of a table, the first of which has the given index. -/
def columns (table : String) (index : Nat) : List Json → Except ImportError (List Column)
  | [] => .ok []
  | v :: vs =>
    match column? v with
    | none => .error (.incompleteColumn table index)
    | some c => (columns table (index + 1) vs).map (c :: ·)

/-- The relations of a table. -/
def relations (v : Json) : Except ImportError (List Relation) :=
  match v.member? "relations" with
  | none | some .null => .ok []
  | some rs => (asList Relation.ofJson rs).mapError fun e => .json (.misshapen e)

/-- The table with an index. -/
def table (index : Nat) (v : Json) : Except ImportError Table := do
  match text? "name" v, list? "columns" v with
  | some name, some cs =>
    let columns ← columns name 0 cs
    let relations ← relations v
    return { name, columns, relations }
  | _, _ => throw (.invalidTable index)

/-- The tables of a document, the first of which has the given index. -/
def tables (index : Nat) : List Json → Except ImportError Schema
  | [] => .ok []
  | v :: vs => do
    let t ← table index v
    let ts ← tables (index + 1) vs
    return t :: ts

/-- The document that a value describes. -/
def document (v : Json) : Except ImportError Document :=
  match list? "tables" v with
  | none | some [] => .error .noTables
  | some ts => do
    let tables ← tables 0 ts
    return { tables, dialect := text? "dialect" v }

end Import

/-- The document of a text. -/
def Document.ofText (s : String) : Except ImportError Document :=
  match Json.read s with
  | .error e => .error (.json (.malformed e))
  | .ok v => Import.document v

/-- The text is read as a document: its first character other than whitespace opens an object. -/
def looksLikeDocument (s : String) : Bool :=
  (Text.trimStart s.toList).head? == some '{'

/-- The schema of a text, which is a document or in the notation. -/
def Schema.load (s : String) : Except ImportError Schema :=
  if looksLikeDocument s then
    (Document.ofText s).map Document.tables
  else
    .ok (parse s)

end SchemaWorkbench
