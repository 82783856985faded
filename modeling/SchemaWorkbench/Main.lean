import SchemaWorkbench.CommandLine.Run

/-!
# The program

Holds the dialogues of the command line with the real surroundings. There is no transport for
requests: no service is ever reached.
-/

namespace SchemaWorkbench.CommandLine

/-- Why an operation on a file failed. -/
def faultOf : IO.Error → FileFault
  | .noFileOrDirectory .. => .missing
  | .permissionDenied .. => .denied
  | .inappropriateType .. => .isDirectory
  | e => .other (toString e)

/-- All that is left of a stream. -/
partial def readRest (stream : IO.FS.Stream) (bytes : ByteArray) : IO ByteArray := do
  let chunk ← stream.read 65536
  if chunk.isEmpty then return bytes else readRest stream (bytes ++ chunk)

/-- The bytes of a stream up to its next line feed. -/
partial def readLine (stream : IO.FS.Stream) (bytes : ByteArray) : IO ByteArray := do
  let next ← stream.read 1
  if next.isEmpty then return bytes
  let bytes := bytes ++ next
  if next.get! 0 = 10 then return bytes else readLine stream bytes

/-- Holds a dialogue. -/
def hold {α : Type} : Dialogue α → IO α
  | .finish a => return a
  | .print text next => do
    let out ← IO.getStdout
    out.putStr text
    out.flush
    hold next
  | .warn text next => do
    IO.eprint text
    hold next
  | .isFile path next => do
    let found ← (IO.FS.readBinFile path).toBaseIO
    hold (next found.toBool)
  | .readFile path next => do
    match ← (IO.FS.readBinFile path).toBaseIO with
    | .ok bytes => hold (next (textOf bytes.toList))
    | .error e => hold (next (.error (faultOf e)))
  | .writeFile path text next => do
    match ← (IO.FS.writeFile path text).toBaseIO with
    | .ok _ => hold (next (.ok ()))
    | .error e => hold (next (.error (faultOf e)))
  | .readInput next => do
    hold (next (textOf (← readRest (← IO.getStdin) .empty).toList))
  | .post _ next => hold (next (.fault .unreachable))

/-- Converses until the input or the session ends, and returns the exit code. -/
partial def converseIO (client : Client) (s : Repl.State) : IO Nat := do
  hold (.put s.prompt)
  let bytes ← readLine (← IO.getStdin) .empty
  if bytes.isEmpty then
    hold (.put Repl.farewell)
    return 0
  match Repl.lineOf bytes.toList with
  | .error fault =>
    hold (.warn fault.report (.finish ()))
    return fault.exitCode
  | .ok line =>
    match ← hold (Repl.enter client s line) with
    | some s => converseIO client s
    | none => return 0

end SchemaWorkbench.CommandLine

open SchemaWorkbench SchemaWorkbench.CommandLine in
/-- Runs the program. -/
def main (arguments : List String) : IO UInt32 := do
  let apiUrl ← IO.getEnv "TABLESMITH_API_URL"
  let configHome ← IO.getEnv "XDG_CONFIG_HOME"
  let home ← IO.getEnv "HOME"
  let configDirectory := configHome <|> home.map (· ++ "/.config")
  match ← hold (program { apiUrl, configDirectory } arguments) with
  | .exit code => return code.toUInt32
  | .interactive client config =>
    hold (.put Repl.greeting)
    return (← converseIO client (Repl.start config)).toUInt32
