import SchemaWorkbench.History
import SchemaWorkbench.Notation
import SchemaWorkbench.Schema.Template

/-!
# Editing sessions

A session is a working copy of a schema with its history. Every edit that succeeds is committed to
the history, and every edit that fails leaves the session as it is. Where several tables have the
same name, edits by name concern the first one.

## Main definitions

* `Session`, `Session.start`: a session, and the one that begins with the empty schema
* `EditError`: why an edit fails
* `Session.addColumn`, `Session.removeTable`, …: the edits one by one
* `Edit`, `Outcome`, `Session.apply`: the edits as data, and what one of them does
-/

namespace SchemaWorkbench

/-- A working copy with its history. -/
structure Session where
  tables : Schema
  history : History Schema

/-- Why an edit fails. -/
inductive EditError where
  | noTable (name : String)
  | noColumn (table column : String)
  deriving DecidableEq, Repr

/-- The wording of a failure. -/
def EditError.message : EditError → String
  | noTable name => "Not found: table '" ++ name ++ "'"
  | noColumn table column => "Not found: column '" ++ table ++ "." ++ column ++ "'"

/-- What a line of the notation did to a session. -/
inductive LineOutcome where
  | tableOpened (name : String)
  | columnAdded (table column : String)
  | ignored
  deriving DecidableEq, Repr

namespace Schema

/-- The schema with its first table of a name changed by `f`; there is none if no table has the
name. -/
def updateTable (name : String) (f : Table → Table) : Schema → Option Schema
  | [] => none
  | t :: ts => if t.name = name then some (f t :: ts) else (updateTable name f ts).map (t :: ·)

/-- The first table of a name. -/
def table? (name : String) (s : Schema) : Option Table :=
  s.find? (·.name == name)

end Schema

/-- The first element that satisfies `p`, and the list without it. -/
def extractFirst? {α : Type} (p : α → Bool) : List α → Option (α × List α)
  | [] => none
  | a :: as => if p a then some (a, as) else (extractFirst? p as).map fun r => (r.1, a :: r.2)

namespace Session

/-- The session that begins with the empty schema and takes over a history, without its
snapshots. -/
def start (h : History Schema) : Session :=
  { tables := [], history := h.clear.push [] }

/-- The session with another working copy, which is committed. -/
def commit (s : Session) (tables : Schema) : Session :=
  { tables, history := s.history.push tables }

/-- Another schema takes the place of the working copy. -/
def load (s : Session) (tables : Schema) : Session :=
  s.commit tables

/-- One more table. -/
def addTable (s : Session) (t : Table) : Session :=
  s.commit (s.tables ++ [t])

/-- The tables that a text describes are added; their number is returned. -/
def append (s : Session) (text : String) : Nat × Session :=
  let tables := parse text
  (tables.length, if tables = [] then s else s.commit (s.tables ++ tables))

/-- One line of the notation: a header opens a table, and a column goes to the last table. -/
def applyLine (s : Session) (line : String) : LineOutcome × Session :=
  match tableHeader? line with
  | some name => (.tableOpened name, s.addTable { name })
  | none =>
    match s.tables.getLast?, columnLine? line with
    | some table, some column =>
      (.columnAdded table.name column.name,
        s.commit (s.tables.dropLast ++ [table.addColumn column]))
    | _, _ => (.ignored, s)

/-- The first table of a name is changed. -/
def editTable (s : Session) (name : String) (f : Table → Table) : Except EditError Session :=
  match s.tables.updateTable name f with
  | some tables => .ok (s.commit tables)
  | none => .error (.noTable name)

/-- One more column in a table. -/
def addColumn (s : Session) (table : String) (c : Column) : Except EditError Session :=
  s.editTable table (·.addColumn c)

/-- A ready-made column in a table. -/
def addTemplate (s : Session) (table : String) (t : Template) : Except EditError Session :=
  s.addColumn table t.column

/-- One more relation in its source table. -/
def addRelation (s : Session) (r : Relation) : Except EditError Session :=
  s.editTable r.sourceTable (·.addRelation r)

/-- The first table of a name goes, and is returned. -/
def removeTable (s : Session) (name : String) : Except EditError (Table × Session) :=
  match extractFirst? (·.name == name) s.tables with
  | some (t, tables) => .ok (t, s.commit tables)
  | none => .error (.noTable name)

/-- The first column of a name goes from a table, and is returned. -/
def removeColumn (s : Session) (table column : String) : Except EditError (Column × Session) :=
  match s.tables.table? table with
  | none => .error (.noTable table)
  | some t =>
    match extractFirst? (·.name == column) t.columns with
    | none => .error (.noColumn table column)
    | some (c, columns) => (c, ·) <$> s.editTable table fun t => { t with columns }

/-- The session after the history moved, if it did. -/
def moved (s : Session) : Option Schema × History Schema → Bool × Session
  | (some tables, history) => (true, { tables, history })
  | (none, history) => (false, { s with history })

/-- Back to the snapshot before, if there is one. -/
def undo (s : Session) : Bool × Session :=
  s.moved s.history.undo

/-- Forward to the snapshot after, if there is one. -/
def redo (s : Session) : Bool × Session :=
  s.moved s.history.redo

/-- The history forgets its snapshots, and the working copy stays. -/
def clearHistory (s : Session) : Session :=
  { s with history := s.history.clear }

end Session

/-- An edit. -/
inductive Edit where
  | load (tables : Schema)
  | append (text : String)
  | line (text : String)
  | addTable (table : Table)
  | addColumn (table : String) (column : Column)
  | addTemplate (table : String) (template : Template)
  | addRelation (relation : Relation)
  | removeTable (name : String)
  | removeColumn (table column : String)
  | undo
  | redo
  | clearHistory

/-- What an edit returns. -/
inductive Outcome where
  | done
  | line (outcome : LineOutcome)
  | appended (count : Nat)
  | tableRemoved (table : Table)
  | columnRemoved (column : Column)
  | moved (success : Bool)
  | failed (cause : EditError)
  deriving DecidableEq, Repr

namespace Session

/-- The outcome of an edit that can fail; a failure leaves the session as it is. -/
def settle (s : Session) : Except EditError (Outcome × Session) → Outcome × Session
  | .ok r => r
  | .error e => (.failed e, s)

/-- What an edit returns and what it makes of a session. -/
def apply (s : Session) : Edit → Outcome × Session
  | .load tables => (.done, s.load tables)
  | .append text => (.appended (s.append text).1, (s.append text).2)
  | .line text => (.line (s.applyLine text).1, (s.applyLine text).2)
  | .addTable t => (.done, s.addTable t)
  | .addColumn table c => s.settle ((.done, ·) <$> s.addColumn table c)
  | .addTemplate table t => s.settle ((.done, ·) <$> s.addTemplate table t)
  | .addRelation r => s.settle ((.done, ·) <$> s.addRelation r)
  | .removeTable name => s.settle (Prod.map .tableRemoved id <$> s.removeTable name)
  | .removeColumn table c => s.settle (Prod.map .columnRemoved id <$> s.removeColumn table c)
  | .undo => (.moved s.undo.1, s.undo.2)
  | .redo => (.moved s.redo.1, s.redo.2)
  | .clearHistory => (.done, s.clearHistory)

/-- The session after a sequence of edits. -/
def applyAll (s : Session) (edits : List Edit) : Session :=
  edits.foldl (fun s e => (s.apply e).2) s

end Session

end SchemaWorkbench
