import SchemaWorkbench.Dialect
import SchemaWorkbench.Export.Format

/-!
# Command-line arguments

Arguments are switches, a command and the operands of that command. Switches may stand anywhere,
and those that hold for every command may also stand before it. A switch takes its value from the
rest of the argument or from the next one, which must not look like a switch; short switches can be
written together. After `--` everything is an operand.

## Main definitions

* `Switch`, `Level`: what may be written before a command, or after it
* `Level.scan`: the switches and operands of a level, up to a command
* `Command`, `Invocation`: what the arguments ask for
* `Invocation.ofArguments`: the invocation that the arguments describe
-/

namespace SchemaWorkbench.CommandLine

open Export (Format)

/-- A switch. -/
structure Switch where
  long : String
  short : Option Char := none
  /-- The values that the switch takes, if it takes one. -/
  accepts : Option (String → Bool) := none

/-- What may be written before a command, or after it. -/
structure Level where
  switches : List Switch
  commands : List String := []
  /-- The greatest number of operands, if there is one. -/
  operands : Option Nat := some 0

/-- Why arguments do not describe an invocation. -/
inductive Stop where
  | usage
  | help
  | version
  deriving DecidableEq, Repr

/-- What is written on a level. -/
structure Written where
  /-- The values of the switches by long name; a switch without a value has the empty text. -/
  values : List (String × String) := []
  operands : List String := []

/-- A level with the command that ends it and the arguments after that. -/
abbrev Scanned := Written × Option (String × List String)

namespace Written

/-- The switch with a value; no switch may be written twice. -/
def set (w : Written) (s : Switch) (value : String) : Except Stop Written :=
  if s.long = "help" then .error .help
  else if s.long = "version" then .error .version
  else if (w.values.lookup s.long).isSome then .error .usage
  else if s.accepts.all (· value) then .ok { w with values := w.values ++ [(s.long, value)] }
  else .error .usage

/-- One more operand. -/
def addOperand (w : Written) (l : Level) (operand : String) : Except Stop Written :=
  if l.operands.all (w.operands.length < ·) then
    .ok { w with operands := w.operands ++ [operand] }
  else
    .error .usage

end Written

namespace Level

/-- A switch by its long name, perhaps with a value after an equals sign; a switch that still needs
its value is returned. -/
def long (l : Level) (w : Written) (text : List Char) : Except Stop (Written × Option Switch) :=
  let name := String.ofList (text.takeWhile (· ≠ '='))
  let attached := match text.dropWhile (· ≠ '=') with
    | [] => none
    | _ :: value => some (String.ofList value)
  match l.switches.find? (·.long == name), attached with
  | none, _ => .error .usage
  | some s, some value =>
    if s.accepts.isSome then (w.set s value).map (·, none) else .error .usage
  | some s, none =>
    if s.accepts.isSome then .ok (w, some s) else (w.set s "").map (·, none)

/-- Switches by their short names; a switch that takes a value takes what follows its name, without
an equals sign, and is returned if nothing follows. -/
def short (l : Level) (w : Written) : List Char → Except Stop (Written × Option Switch)
  | [] => .ok (w, none)
  | c :: cs =>
    match l.switches.find? (·.short == some c) with
    | none => .error .usage
    | some s =>
      if s.accepts.isSome then
        match cs with
        | [] => .ok (w, some s)
        | '=' :: value => (w.set s (String.ofList value)).map (·, none)
        | value => (w.set s (String.ofList value)).map (·, none)
      else do
        let w ← w.set s ""
        l.short w cs

/-- The switches and operands of a level, up to a command. -/
def scan (l : Level) (w : Written) : Option Switch → List String → Except Stop Scanned
  | none, [] => .ok (w, none)
  | some _, [] => .error .usage
  | pending, a :: rest =>
    if pending.isNone ∧ l.commands.contains a then
      .ok (w, some (a, rest))
    else
      match a.toList, pending with
      | ['-', '-'], none => do
        let w ← rest.foldlM (·.addOperand l ·) w
        .ok (w, none)
      | '-' :: '-' :: text, none => do
        let (w, pending) ← l.long w text
        l.scan w pending rest
      | '-' :: c :: text, none => do
        let (w, pending) ← l.short w (c :: text)
        l.scan w pending rest
      | '-' :: _ :: _, some _ => .error .usage
      | _, some s => do
        let w ← w.set s a
        l.scan w none rest
      | _, none => do
        let w ← w.addOperand l a
        l.scan w none rest

end Level

/-! ## The commands -/

/-- What the program is asked to do. -/
inductive Command where
  | parse (input : String) (asJson : Bool)
  | exportTo (input : String) (format : Format) (output : Option String)
      (dialect : Option Dialect)
  | generate (input : String) (dialect : Option Dialect) (output : Option String)
  | validate (input : String)
  | resolve (words : List String)
  | types
  | repl

/-- A command with the settings that hold for every command. -/
structure Invocation where
  apiUrl : Option String := none
  config : Option String := none
  verbose : Bool := false
  command : Option Command := none

/-- Every value is accepted. -/
def anyValue : Option (String → Bool) := some fun _ => true

/-- One of the given values is accepted. -/
def oneOf {α : Type} (names : List (String × α)) : Option (String → Bool) :=
  some fun s => (names.lookup s).isSome

/-- The switches that hold for every command. -/
def globalSwitches : List Switch :=
  [ { long := "api-url", accepts := anyValue },
    { long := "config", short := some 'c', accepts := some (· ≠ "") },
    { long := "verbose", short := some 'v' },
    { long := "help", short := some 'h' } ]

/-- The formats of the parse command: whether it shows JSON. -/
def parseFormats : List (String × Bool) :=
  [("pretty", false), ("json", true)]

/-- The export formats by the names that the command line takes. -/
def exportFormats : List (String × Format) :=
  [ ("sql", .sql), ("json", .json), ("typescript", .typeScript), ("ts", .typeScript),
    ("java", .javaEntity), ("jpa", .javaEntity) ]

/-- The dialects by the names that the command line takes. -/
def dialectNames : List (String × Dialect) :=
  [ ("mysql", .mySql), ("postgresql", .postgreSql), ("postgres", .postgreSql),
    ("sqlite", .sqlite), ("sql-server", .sqlServer), ("mssql", .sqlServer) ]

/-- The switch for an output file. -/
def outputSwitch : Switch := { long := "output", short := some 'o', accepts := anyValue }

/-- The switch for a dialect. -/
def dialectSwitch : Switch :=
  { long := "dialect", short := some 'd', accepts := oneOf dialectNames }

/-- The commands with what may be written after them. -/
def commandLevels : List (String × Level) :=
  [ ("parse",
      { operands := some 1
        switches := { long := "format", short := some 'f', accepts := oneOf parseFormats }
          :: globalSwitches }),
    ("export",
      { operands := some 1
        switches := { long := "format", short := some 'f', accepts := oneOf exportFormats }
          :: outputSwitch :: dialectSwitch :: globalSwitches }),
    ("generate",
      { operands := some 1, switches := dialectSwitch :: outputSwitch :: globalSwitches }),
    ("validate", { operands := some 1, switches := globalSwitches }),
    ("resolve", { operands := none, switches := globalSwitches }),
    ("types", { switches := globalSwitches }),
    ("repl", { switches := globalSwitches }) ]

/-- What may be written before a command. -/
def topLevel : Level where
  switches := { long := "version", short := some 'V' } :: globalSwitches
  commands := commandLevels.map (·.1) ++ ["help"]

/-- The command of a name with what is written after it. -/
def Command.ofWritten (name : String) (w : Written) : Except Stop Command :=
  let value (switch : String) := w.values.lookup switch
  match name, w.operands with
  | "parse", [input] =>
    .ok (.parse input (((value "format").bind (parseFormats.lookup ·)).getD false))
  | "export", [input] =>
    .ok (.exportTo input (((value "format").bind (exportFormats.lookup ·)).getD .json)
      (value "output") ((value "dialect").bind (dialectNames.lookup ·)))
  | "generate", [input] =>
    .ok (.generate input ((value "dialect").bind (dialectNames.lookup ·)) (value "output"))
  | "validate", [input] => .ok (.validate input)
  | "resolve", words => .ok (.resolve words)
  | "types", _ => .ok .types
  | "repl", _ => .ok .repl
  | _, _ => .error .usage

/-- What a request for help comes to: it may name one command, and nothing else. -/
def helpStop : List String → Stop
  | [] => .help
  | [name] => if topLevel.commands.contains name then .help else .usage
  | _ => .usage

/-- The invocation that the arguments describe. A switch after the command counts more than the same
one before it. -/
def Invocation.ofArguments (arguments : List String) : Except Stop Invocation := do
  let (before, command) ← topLevel.scan {} none arguments
  match command with
  | none =>
    return {
      apiUrl := before.values.lookup "api-url"
      config := before.values.lookup "config"
      verbose := (before.values.lookup "verbose").isSome }
  | some ("help", rest) => throw (helpStop rest)
  | some (name, rest) =>
    let level ← (commandLevels.lookup name).elim (.error .usage) .ok
    let (after, _) ← level.scan {} none rest
    let command ← Command.ofWritten name after
    return {
      apiUrl := after.values.lookup "api-url" <|> before.values.lookup "api-url"
      config := after.values.lookup "config" <|> before.values.lookup "config"
      verbose := (after.values.lookup "verbose" <|> before.values.lookup "verbose").isSome
      command := some command }

end SchemaWorkbench.CommandLine
