import SchemaWorkbench.Json.Basic

/-!
# Dialogues

What a command does is a dialogue with its surroundings: it prints, reads and writes files, and asks
a service. A dialogue is a value; it is held with a `Host`, which is a value too.

## Main definitions

* `FileFault`: why a file cannot be used
* `Request`, `Reply`: what a service is asked and what comes back
* `Dialogue`: the dialogues with a result
-/

namespace SchemaWorkbench

/-- Why a file cannot be used. -/
inductive FileFault where
  | missing
  | isDirectory
  | notDirectory
  | denied
  | badName
  | nameTooLong
  | noSpace
  | notText
  | other (text : String)
  deriving DecidableEq, Repr

/-- The wording of a fault. -/
def FileFault.message : FileFault → String
  | missing => "No such file or directory (os error 2)"
  | isDirectory => "Is a directory (os error 21)"
  | notDirectory => "Not a directory (os error 20)"
  | denied => "Permission denied (os error 13)"
  | badName => "file name contained an unexpected NUL byte"
  | nameTooLong => "File name too long (os error 36)"
  | noSpace => "No space left on device (os error 28)"
  | notText => "stream did not contain valid UTF-8"
  | other text => text

/-- A JSON value that is sent to a URL. -/
structure Request where
  url : String
  body : Json

/-- Why a request has no answer. -/
inductive RequestFault where
  /-- There is no connection. -/
  | unreachable
  /-- Anything else, from a URL that is none to an answer that breaks off. -/
  | failed (reason : String)
  deriving DecidableEq, Repr

/-- What comes back for a request. -/
inductive Reply where
  | answer (status : Nat) (body : String)
  | fault (cause : RequestFault)

/-- A conversation with the surroundings that ends with a result. -/
inductive Dialogue (α : Type) where
  | finish (result : α)
  /-- Text for the standard output. -/
  | print (text : String) (next : Dialogue α)
  /-- Text for the standard error output. -/
  | warn (text : String) (next : Dialogue α)
  /-- Whether there is a file of a name. -/
  | isFile (path : String) (next : Bool → Dialogue α)
  /-- The text of a file. -/
  | readFile (path : String) (next : Except FileFault String → Dialogue α)
  /-- The text of a file is replaced. If that fails, a part of the text may be left in the file. -/
  | writeFile (path text : String) (next : Except FileFault Unit → Dialogue α)
  /-- All that is left of the standard input. -/
  | readInput (next : Except FileFault String → Dialogue α)
  /-- A request to a service. -/
  | post (request : Request) (next : Reply → Dialogue α)

namespace Dialogue

variable {α β : Type}

/-- The dialogue that goes on with what `f` says about its result. -/
def bind (d : Dialogue α) (f : α → Dialogue β) : Dialogue β :=
  match d with
  | finish a => f a
  | print text next => print text (next.bind f)
  | warn text next => warn text (next.bind f)
  | isFile path next => isFile path fun b => (next b).bind f
  | readFile path next => readFile path fun r => (next r).bind f
  | writeFile path text next => writeFile path text fun r => (next r).bind f
  | readInput next => readInput fun r => (next r).bind f
  | post request next => post request fun r => (next r).bind f

instance : Monad Dialogue where
  pure := finish
  bind := bind

/-- Prints a line. -/
def say (line : String) : Dialogue Unit :=
  print (line ++ "\n") (finish ())

/-- Prints a line to the standard error output. -/
def complain (line : String) : Dialogue Unit :=
  warn (line ++ "\n") (finish ())

/-- Prints a text as it is. -/
def put (text : String) : Dialogue Unit :=
  print text (finish ())

end Dialogue

end SchemaWorkbench
