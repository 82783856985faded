import SchemaWorkbench.CommandLine.Arguments
import SchemaWorkbench.CommandLine.Repl

/-!
# Running the program

## Main definitions

* `Environment`: what a run finds set
* `runCommand`: what a command does
* `Ending`, `program`: how a run ends, and the dialogue up to there
* `execute`: a whole run with a host
-/

namespace SchemaWorkbench.CommandLine

open Export (Format)

/-- The values that a run finds set. -/
structure Environment where
  /-- The URL of the service. -/
  apiUrl : Option String := none
  /-- The directory of the user's configuration files. -/
  configDirectory : Option String := none

/-- The name of the configuration file in the working directory. -/
def configFile : String := "tablesmith.toml"

/-- The places where a configuration file is looked for. -/
def configPaths (env : Environment) : List String :=
  configFile :: (env.configDirectory.map (· ++ "/tablesmith/config.toml")).toList

/-- The settings of a configuration file. -/
def readConfig (path : String) : Task Config := do
  let text ← .ofDialogue
    (fun e =>
      let cause := FileFault.message e
      ⟨"Failed to read " ++ path ++ ": " ++ cause, some cause⟩)
    (.readFile path .finish)
  match Config.ofToml? text with
  | some config => return config
  | none => throw ⟨"Failed to parse " ++ path ++ ": TOML parse error", some "TOML parse error"⟩

/-- The settings of the first configuration file that there is. -/
def discoverConfig : List String → Task Config
  | [] => return {}
  | path :: paths => do
    if ← ExceptT.lift (.isFile path .finish) then
      readConfig path
    else
      discoverConfig paths

/-- The settings of an invocation. -/
def configOf (env : Environment) (inv : Invocation) : Task Config :=
  match inv.config with
  | some path => readConfig path
  | none => discoverConfig (configPaths env)

/-- What is shown when no command is given. -/
def banner : String :=
  "🧱 tablesmith: describe tables, export schemas\n\nUsage: tablesmith <COMMAND> [OPTIONS]\n\n"
    ++ "Try: tablesmith --help\n"

/-- How a run ends: with an exit code, or with an interactive session. -/
inductive Ending where
  | exit (code : Nat)
  | interactive (client : Client) (config : Config)

/-- What a command does. -/
def runCommand (client : Client) (config : Config) : Command → Task Ending
  | .parse input asJson => do
    let schema ← readSchema input
    put (if asJson then schema.interchangeText ++ "\n" else listing schema)
    return .exit 0
  | .exportTo input format output dialect => do
    let schema ← readSchema input
    let text ← match format, dialect with
      | .json, some d => pure ((Document.ofSchema schema).withDialect d.name).text
      | _, _ => renderSchema client (dialect.getD config.dialect) format schema
    writeText output text
    return .exit 0
  | .generate input dialect output => do
    let schema ← readSchema input
    let sql ← .ofDialogue Failure.ofService
      (client.generate schema (dialect.getD config.dialect))
    writeText output sql
    return .exit 0
  | .validate input => do
    let sql ← readText input
    if ← .ofDialogue Failure.ofService (client.validate sql) then
      put "✓ SQL is valid\n"
      return .exit 0
    else
      put "✗ SQL is not valid\n"
      return .exit 1
  | .resolve words => do
    put (String.join (words.map fun word => word ++ " → " ++ resolve word ++ "\n"))
    return .exit 0
  | .types => do
    put typeReference
    return .exit 0
  | .repl => return .interactive client config

/-- What an invocation does. -/
def runInvocation (env : Environment) (inv : Invocation) : Task Ending := do
  let config ← configOf env inv
  let client := Client.ofUrl ((inv.apiUrl <|> env.apiUrl).getD config.serviceUrl)
  match inv.command with
  | none => do
    put banner
    return .exit 0
  | some command => runCommand client config command

/-- The dialogue of a run up to its end, or up to the start of an interactive session. -/
def program (env : Environment) (arguments : List String) : Dialogue Ending :=
  match Invocation.ofArguments arguments with
  | .error .version => do
    .say "tablesmith 0.1.0"
    return .exit 0
  | .error .help => do
    .put banner
    return .exit 0
  | .error .usage => do
    .complain "error: unexpected arguments\n\nFor more information, try '--help'."
    return .exit 2
  | .ok inv => do
    match ← (runInvocation env inv).run with
    | .ok ending => return ending
    | .error e =>
      .warn e.report (.finish ())
      return .exit 1

/-- A whole run with a host: the exit code, and the host after it. -/
def execute (env : Environment) (arguments : List String) (h : Host) : Nat × Host :=
  match (program env arguments).run h with
  | (.exit code, h) => (code, h)
  | (.interactive client config, h) =>
    let h := { h with output := h.output ++ Repl.greeting, inputTaken := true }
    Repl.converse client (Repl.start config) (Repl.inputLines h.input) h

end SchemaWorkbench.CommandLine
