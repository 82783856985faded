import SchemaWorkbench.Dialect
import SchemaWorkbench.Json.Shape
import SchemaWorkbench.Schema.Codec
import SchemaWorkbench.Dialogue
import SchemaWorkbench.Text.Whitespace

/-!
# The generation service

A client asks the service for the SQL of a schema, or whether some SQL is valid. Each question is
one request, and what the service answers is returned as it is.

## Main definitions

* `Client`, `Client.ofUrl`: a client of the service below a URL
* `ServiceError`: why a question has no answer
* `Client.generate`, `Client.validate`: the questions
-/

namespace SchemaWorkbench

/-- The URL of the service where none is configured. -/
def defaultServiceUrl : String := "http://localhost:8080/api/sql"

/-- A client of the service below a URL. -/
structure Client where
  baseUrl : String
  deriving DecidableEq, Repr

/-- Why a question has no answer. -/
inductive ServiceError where
  | unreachable
  | refused (status : Nat) (body : String)
  | failed (reason : String)
  deriving DecidableEq, Repr

/-- The wording of a failure. -/
def ServiceError.message : ServiceError → String
  | unreachable => "Cannot connect to the server. Please make sure the backend is running."
  | refused status body => "Error Code: " ++ toString status ++ "\nMessage: " ++ body
  | failed reason => "Error: " ++ reason

/-- The text of an answer, which a byte order mark may precede. -/
def Reply.dropMark (body : String) : String :=
  match body.toList with
  | '\uFEFF' :: cs => String.ofList cs
  | _ => body

/-- The text of a reply that grants what was asked. -/
def Reply.granted : Reply → Except ServiceError String
  | .fault .unreachable => .error .unreachable
  | .fault (.failed reason) => .error (.failed reason)
  | .answer status body =>
    if 200 ≤ status ∧ status < 300 then .ok (dropMark body)
    else .error (.refused status (dropMark body))

namespace Client

/-- The client of the service below a URL, without the slashes the URL ends with. -/
def ofUrl (url : String) : Client :=
  ⟨String.ofList (url.toList.reverse.dropWhile (· = '/')).reverse⟩

/-- One request. Which URLs can be asked is a matter of the host. -/
def ask (url : String) (body : Json) : Dialogue (Except ServiceError String) :=
  .post ⟨url, body⟩ fun reply => .finish reply.granted

/-- What is sent to ask for the SQL of a schema. -/
def generateBody (s : Schema) (d : Dialect) : Json :=
  .obj [("tables", Schema.toJson s), ("dialect", d.toJson)]

/-- What is sent to ask about some SQL. -/
def validateBody (sql : String) : Json :=
  .obj [("sql", .str sql)]

/-- Asks for the SQL of a schema in a dialect. -/
def generate (c : Client) (s : Schema) (d : Dialect) : Dialogue (Except ServiceError String) :=
  ask (c.baseUrl ++ "/generate") (generateBody s d)

/-- The truth value that an answer holds. -/
def verdict (body : String) : Except ServiceError Bool :=
  (Json.readFlag (Text.trim body.toList)).mapError fun e =>
    .failed ("unexpected validation response: " ++ e.message)

/-- Asks whether some SQL is valid. -/
def validate (c : Client) (sql : String) : Dialogue (Except ServiceError Bool) := do
  let answer ← ask (c.baseUrl ++ "/validate") (validateBody sql)
  return answer.bind verdict

end Client

end SchemaWorkbench
