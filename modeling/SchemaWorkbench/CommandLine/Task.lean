import SchemaWorkbench.Client
import SchemaWorkbench.CommandLine.Listing
import SchemaWorkbench.Config
import SchemaWorkbench.Export.Format
import SchemaWorkbench.Interchange.Import
import SchemaWorkbench.Session

/-!
# Tasks

A task is a dialogue that can fail. The tasks of this module are those that the commands share with
the interactive session.

## Main definitions

* `Failure`, `Failure.report`: why a task fails, and how a command reports it
* `Task`: the tasks with a result
* `readText`, `readSchema`, `writeText`, `renderSchema`: the shared tasks
-/

namespace SchemaWorkbench.CommandLine

open Export (Format)

/-- Why a task fails, perhaps with the cause behind it. -/
structure Failure where
  message : String
  cause : Option String := none
  deriving DecidableEq, Repr

/-- The text of a report; the lines of the cause are indented. -/
def Failure.report (f : Failure) : String :=
  let indented (cause : String) :=
    "    " ++ "\n    ".intercalate ((Text.pieces (· = '\n') cause.toList).map String.ofList)
  "Error: " ++ f.message ++ "\n"
    ++ (f.cause.elim "" fun cause => "\nCaused by:\n" ++ indented cause ++ "\n")

/-- A dialogue that can fail. -/
abbrev Task (α : Type) := ExceptT Failure Dialogue α

/-- The failure of a refused import. -/
def Failure.ofImport (e : ImportError) : Failure where
  message := e.message
  cause := match e with
    | .json cause => some cause.message
    | _ => none

/-- The failure of a question to the service. -/
def Failure.ofService (e : ServiceError) : Failure where
  message := e.message

/-- The failure of an edit. -/
def Failure.ofEdit (e : EditError) : Failure where
  message := e.message

/-- A result that may be a failure. -/
def Task.ofExcept {ε α : Type} (failure : ε → Failure) (r : Except ε α) : Task α :=
  ExceptT.mk (.finish (r.mapError failure))

/-- A dialogue whose result may be a failure. -/
def Task.ofDialogue {ε α : Type} (failure : ε → Failure) (d : Dialogue (Except ε α)) : Task α :=
  ExceptT.mk (d.bind fun r => .finish (r.mapError failure))

/-- Prints a text. -/
def put (text : String) : Task Unit :=
  ExceptT.lift (.put text)

/-- The text of an input: that of a file, or for a dash the standard input. -/
def readText (input : String) : Task String :=
  if input = "-" then
    .ofDialogue (fun e => ⟨"Failed to read stdin", some (FileFault.message e)⟩)
      (.readInput .finish)
  else
    .ofDialogue (fun e => ⟨"Failed to read " ++ input, some (FileFault.message e)⟩)
      (.readFile input .finish)

/-- The schema of an input, with a warning if it is empty. -/
def readSchema (input : String) : Task Schema := do
  let text ← readText input
  let schema ← .ofExcept Failure.ofImport (Schema.load text)
  if schema = [] then
    ExceptT.lift (.complain ("⚠ no tables found in " ++ input))
  return schema

/-- Writes a text to a file, or prints it if none is given. -/
def writeText (output : Option String) (text : String) : Task Unit :=
  match output with
  | none => put text
  | some path => do
    .ofDialogue (fun e => ⟨"Failed to write " ++ path, some (FileFault.message e)⟩)
      (.writeFile path text .finish)
    put ("✓ Wrote " ++ path ++ "\n")

/-- The text of a schema in a format; SQL is asked from the service. -/
def renderSchema (client : Client) (dialect : Dialect) (format : Format) (s : Schema) :
    Task String :=
  match format.render? s with
  | some text => return text
  | none => .ofDialogue Failure.ofService (client.generate s dialect)

end SchemaWorkbench.CommandLine
