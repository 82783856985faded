import SchemaWorkbench.CommandLine.Task
import SchemaWorkbench.Host
import SchemaWorkbench.Session
import SchemaWorkbench.Text.Typed

/-!
# The interactive session

Every line is an edit in the notation, or a command that starts with a dot. Backspaces in a line
erase what was typed before them. The prompt shows what the observer of the session's history was
told last.

## Main definitions

* `Repl.State`: the session, the current dialect and what the prompt shows
* `Repl.enter`: what one line does
* `Repl.converse`: a whole conversation with a host
-/

namespace SchemaWorkbench.CommandLine.Repl

open Export (Format)

/-- A session with the current dialect. -/
structure State where
  session : Session
  dialect : Dialect
  /-- The flags of the history when the observer of the prompt subscribed. -/
  opening : History.Flags

/-- The state in which a conversation begins. -/
def start (config : Config) : State :=
  let session := Session.start (History.withCapacity config.capacity)
  { session := { session with history := session.history.subscribe }
    dialect := config.dialect
    opening := session.history.flags }

/-- The flags that the observer of the prompt was told last. -/
def State.shown (s : State) : History.Flags :=
  (s.session.history.record 0).getLast?.getD s.opening

/-- The prompt for the given flags. -/
def promptFor (flags : History.Flags) : String :=
  "tablesmith" ++ (if flags.canUndo then " ↶" else "") ++ (if flags.canRedo then " ↷" else "")
    ++ "> "

/-- The prompt of a state. -/
def State.prompt (s : State) : String :=
  promptFor s.shown

/-! ## What is shown -/

/-- The commands, one for a line, with what they do. -/
def commandHelp : List (String × String) :=
  [ (".show", "Show the working schema"),
    (".undo  .redo", "Undo / redo the last edit"),
    (".template <table> <kind>", "Add a ready-made column"),
    (".drop <table>[.<column>]", "Remove a table or column"),
    (".export <format> [file]", "Print or save an export"),
    (".generate [dialect]", "SQL from the generation service"),
    (".dialect [name]", "Show or set the SQL dialect"),
    (".load <file>  .save [file]", "Load / save a schema file"),
    (".reset", "Empty the schema"),
    (".clear", "Clear screen"),
    (".exit", "Exit the REPL") ]

/-- The list of the commands. -/
def help : String :=
  "Commands:\n"
    ++ String.join (commandHelp.map fun (command, meaning) =>
      "  " ++ padded 32 command ++ " - " ++ meaning ++ "\n")
    ++ "\n"

/-- What is shown before the first prompt. -/
def greeting : String :=
  "🧱 tablesmith REPL (interactive mode)\n"
    ++ "Type table lines (`table users:`, `- id(entier, clé primaire)`). Commands:\n" ++ help

/-- What is shown at the end. -/
def farewell : String := "Goodbye! 👋\n"

/-- What a line of the notation did. -/
def lineReport (line : String) (s : Session) : LineOutcome → String
  | .tableOpened name => "+ table " ++ name ++ "\n"
  | .columnAdded table column => "+ " ++ table ++ "." ++ column ++ "\n"
  | .ignored =>
    if line.toList.head? = some '-' ∧ s.tables = [] then
      "Ignored: start a table first (`table <name>`)\n"
    else
      "Ignored: expected `table <name>` or `- col(type, ...)`\n"

/-! ## Commands -/

/-- The failure of a command is reported on one line, without its cause. -/
def reporting {α : Type} (otherwise : α) (t : Task α) : Dialogue α := do
  match ← t.run with
  | .ok a => return a
  | .error e =>
    .complain ("✗ " ++ e.message)
    return otherwise

/-- The state with another session. -/
def State.withSession (s : State) (session : Session) : State :=
  { s with session }

/-- Prints the session's schema in a format, or writes it to a file. -/
def emit (client : Client) (s : State) (format : Format) (file : Option String)
    (dialect : Dialect) : Task Unit := do
  let text ← renderSchema client dialect format s.session.tables
  writeText file text
  if file.isNone then
    put "\n"

/-- `.export <format> [file]` -/
def exportCommand (client : Client) (s : State) (arg : String) : Task Unit :=
  let usage : Failure :=
    { message := "usage: .export <"
        ++ "|".intercalate (Format.all.map Format.extension) ++ "> [file]" }
  match (Text.words arg.toList).map String.ofList with
  | [] => throw usage
  | name :: rest =>
    match Format.ofName? name with
    | none => throw usage
    | some format => emit client s format rest.head? s.dialect

/-- `.template <table> <kind>` -/
def templateCommand (s : State) (arg : String) : Task State :=
  let usage : Failure :=
    { message := "usage: .template <table> <" ++ "|".intercalate (Template.all.map Template.name)
        ++ ">" }
  match (Text.words arg.toList).map String.ofList with
  | table :: kind :: _ =>
    match Template.ofName? kind with
    | none => throw usage
    | some template => do
      let session ← .ofExcept Failure.ofEdit (s.session.addTemplate table template)
      put ("+ " ++ template.name ++ " column added to " ++ table ++ "\n")
      return s.withSession session
  | _ => throw usage

/-- `.drop <table>` or `.drop <table>.<column>` -/
def dropCommand (s : State) (arg : String) : Task State := do
  match Text.cutAt? '.' arg.toList with
  | some (table, column) =>
    let (dropped, session) ← .ofExcept Failure.ofEdit
      (s.session.removeColumn (String.ofList table) (String.ofList column))
    put ("- dropped " ++ dropped.name ++ "\n")
    return s.withSession session
  | none =>
    if arg = "" then
      throw { message := "usage: .drop <table>[.<column>]" }
    let (dropped, session) ← .ofExcept Failure.ofEdit (s.session.removeTable arg)
    put ("- dropped " ++ dropped.name ++ "\n")
    return s.withSession session

/-- `.load <file>` -/
def loadCommand (s : State) (arg : String) : Task State := do
  let schema ← readSchema arg
  put ("✓ loaded " ++ toString schema.length ++ " table(s)\n")
  return s.withSession (s.session.load schema)

/-- `.save [file]` -/
def saveCommand (s : State) (arg : String) : Task Unit :=
  let path := if arg = "" then Format.json.defaultFileName else arg
  writeText (some path) s.session.tables.interchangeText

/-- `.dialect [name]` -/
def dialectCommand (s : State) (arg : String) : Dialogue State :=
  match Dialect.ofName? arg with
  | some d => do
    .say ("✓ dialect set to " ++ d.name)
    return { s with dialect := d }
  | none => do
    .say ("Current dialect: " ++ s.dialect.name)
    return s

/-- A step through the history, with what is said if there is one and if there is none. -/
def stepCommand (s : State) (step : Bool × Session) (done nothing : String) : Dialogue State := do
  .say (if step.1 then done else nothing)
  return s.withSession step.2

/-- A line of the notation. -/
def editCommand (s : State) (line : String) : Dialogue State := do
  let (outcome, session) := s.session.applyLine line
  .put (lineReport line session outcome)
  return s.withSession session

/-- A task that leaves the state as it is. -/
def reportingOnly (s : State) (t : Task Unit) : Dialogue State :=
  reporting s do
    t
    return s

/-- A command with its argument. -/
def command (client : Client) (s : State) (name arg : String) : Dialogue State :=
  match name with
  | ".help" => do
    .put help
    return s
  | ".show" => do
    .put (listing s.session.tables)
    return s
  | ".undo" => stepCommand s s.session.undo "↶ undone" "Nothing to undo"
  | ".redo" => stepCommand s s.session.redo "↷ redone" "Nothing to redo"
  | ".dialect" => dialectCommand s arg
  | ".export" => reportingOnly s (exportCommand client s arg)
  | ".generate" =>
    reportingOnly s (emit client s .sql none ((Dialect.ofName? arg).getD s.dialect))
  | ".template" => reporting s (templateCommand s arg)
  | ".drop" => reporting s (dropCommand s arg)
  | ".load" => reporting s (loadCommand s arg)
  | ".save" => reportingOnly s (saveCommand s arg)
  | ".reset" => do
    .say "✓ schema cleared (undo to restore)"
    return s.withSession (s.session.load [])
  | ".clear" => do
    .put "\x1b[2J\x1b[1;1H"
    return s
  | _ => do
    .complain ("✗ unknown command " ++ name)
    return s

/-- The command and the argument of a line that starts with a dot. -/
def splitCommand (line : List Char) : String × String :=
  let name := line.takeWhile (!Text.isWhitespace ·)
  let arg := Text.trim (line.drop (name.length + 1))
  (String.ofList name, String.ofList arg)

/-- What one line does; there is no state after a line that ends the conversation. -/
def enter (client : Client) (s : State) (line : String) : Dialogue (Option State) :=
  match Text.trim line.toList with
  | [] => return some s
  | '.' :: rest => do
    let (name, arg) := splitCommand ('.' :: rest)
    if name = ".exit" ∨ name = ".quit" then
      .put farewell
      return none
    else
      some <$> command client s name arg
  | line => some <$> editCommand s (String.ofList line)

/-! ## Lines of input -/

/-- The lines of an input, each with its line feed. -/
def inputLines : List UInt8 → List (List UInt8)
  | [] => []
  | b :: bs =>
    if b = 10 then
      [b] :: inputLines bs
    else
      match inputLines bs with
      | [] => [[b]]
      | line :: rest => (b :: line) :: rest

/-- Why a line of input cannot be entered. -/
inductive LineFault where
  /-- The bytes are no text. -/
  | notText
  /-- Erasing would leave a part of a character. -/
  | splitCharacter
  deriving DecidableEq, Repr

namespace LineFault

/-- What is reported for a line that cannot be entered. -/
def report : LineFault → String
  | notText =>
    "Error: Io(Error \x7b kind: InvalidData, message: \"stream did not contain valid UTF-8\" \x7d)\n"
  | splitCharacter => "assertion failed: self.is_char_boundary(new_len)\n"

/-- The exit code after a line that cannot be entered. -/
def exitCode : LineFault → Nat
  | notText => 0
  | splitCharacter => 101

end LineFault

/-- The line that the bytes of a line of input spell, without its end and without what its
backspaces erase. -/
def lineOf (bytes : List UInt8) : Except LineFault String :=
  match decodeUtf8 bytes with
  | none => .error .notText
  | some line =>
    match Text.typed? ((Text.lines line.toList).headD []) with
    | none => .error .splitCharacter
    | some typed => .ok (String.ofList typed)

/-! ## Conversations -/

/-- The end of the input: a last prompt, and good-bye. -/
def close (s : State) (h : Host) : Host :=
  { h with output := h.output ++ s.prompt ++ farewell, input := [] }

/-- A conversation over the lines that are left of a host's input, with the exit code. Before each
line the prompt of the state is printed. A line can use up the rest of the input itself. -/
def converse (client : Client) (s : State) : List (List UInt8) → Host → Nat × Host
  | [], h => (0, close s h)
  | bytes :: rest, h =>
    let h := { h with output := h.output ++ s.prompt, input := rest.flatten }
    match lineOf bytes with
    | .error fault => (fault.exitCode, { h with errors := h.errors ++ fault.report })
    | .ok line =>
      match (enter client s line).run h with
      | (none, h) => (0, h)
      | (some s, h) => if h.input = [] then (0, close s h) else converse client s rest h

end SchemaWorkbench.CommandLine.Repl
