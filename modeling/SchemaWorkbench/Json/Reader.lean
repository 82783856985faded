import SchemaWorkbench.Json.Token

/-!
# Reading JSON

A reader is an automaton with a stack: it takes the tokens of a text from left to right, and its
state is what it has read so far of every container that is still open, together with what may come
next. It refuses a text at the first token that may not come next.

## Main definitions

* `Frame`: an open container that waits for a value
* `State`: the states of the reader
* `State.step`, `State.finish`: what a token and the end of the text do to a state
* `Json.read`: the value of a text
-/

namespace SchemaWorkbench.Json

/-- The number of containers that may be open at a time. -/
def nestingLimit : Nat := 127

/-- A container that waits for a value, with what has been read of it, newest first. -/
inductive Frame where
  | list (items : List Json)
  | member (members : List (String × Json)) (key : String)

/-- What has been read and what may come next. -/
inductive State where
  /-- A value must follow. -/
  | value (stack : List Frame)
  /-- A list was opened. -/
  | listStart (stack : List Frame)
  /-- An item of a list was read. -/
  | listNext (items : List Json) (stack : List Frame)
  /-- A comma was read in a list. -/
  | listItem (items : List Json) (stack : List Frame)
  /-- An object was opened. -/
  | objectStart (stack : List Frame)
  /-- A member of an object was read. -/
  | objectNext (members : List (String × Json)) (stack : List Frame)
  /-- A comma was read in an object. -/
  | objectKey (members : List (String × Json)) (stack : List Frame)
  /-- A key was read. -/
  | colon (members : List (String × Json)) (key : String) (stack : List Frame)
  /-- The value of the text was read. -/
  | finished (value : Json)

namespace State

/-- A value is complete, and so it goes into the container that waits for it. -/
def complete (value : Json) : List Frame → State
  | [] => .finished value
  | .list items :: stack => .listNext (value :: items) stack
  | .member members key :: stack => .objectNext ((key, value) :: members) stack

/-- A value starts with the token. -/
def beginValue (limit : Nat) (stack : List Frame) : Token → Except SyntaxError State
  | .listOpen => if stack.length < limit then .ok (.listStart stack) else .error .tooDeep
  | .objectOpen => if stack.length < limit then .ok (.objectStart stack) else .error .tooDeep
  | .text s => .ok (complete (.str s) stack)
  | .scalar v => .ok (complete v stack)
  | .brokenText e | .broken e => .error e
  | .listClose | .objectClose | .colon | .comma => .error .expectedValue

/-- A member starts with the token. -/
def beginMember (members : List (String × Json)) (stack : List Frame) :
    Token → Except SyntaxError State
  | .text key => .ok (.colon members key stack)
  | .brokenText e => .error e
  | _ => .error .keyNotString

/-- What a token does to a state. -/
def step (limit : Nat) : State → Token → Except SyntaxError State
  | .value stack, t => beginValue limit stack t
  | .listStart stack, .listClose => .ok (complete (.arr []) stack)
  | .listStart stack, t => beginValue limit (.list [] :: stack) t
  | .listNext items stack, .comma => .ok (.listItem items stack)
  | .listNext items stack, .listClose => .ok (complete (.arr items.reverse) stack)
  | .listNext _ _, _ => .error .expectedListComma
  | .listItem _ _, .listClose => .error .trailingComma
  | .listItem items stack, t => beginValue limit (.list items :: stack) t
  | .objectStart stack, .objectClose => .ok (complete (.obj []) stack)
  | .objectStart stack, t => beginMember [] stack t
  | .objectNext members stack, .comma => .ok (.objectKey members stack)
  | .objectNext members stack, .objectClose => .ok (complete (.obj members.reverse) stack)
  | .objectNext _ _, _ => .error .expectedObjectComma
  | .objectKey _ _, .objectClose => .error .trailingComma
  | .objectKey members stack, t => beginMember members stack t
  | .colon members key stack, .colon => .ok (.value (.member members key :: stack))
  | .colon _ _ _, _ => .error .expectedColon
  | .finished _, _ => .error .trailingCharacters

/-- What the end of the text means in a state. -/
def finish : State → Except SyntaxError Json
  | .value _ | .listItem _ _ | .objectKey _ _ => .error .endInValue
  | .listStart _ | .listNext _ _ => .error .endInList
  | .objectStart _ | .objectNext _ _ | .colon _ _ _ => .error .endInObject
  | .finished v => .ok v

/-- What a sequence of tokens does to a state. -/
def run (limit : Nat) (s : State) (ts : List Token) : Except SyntaxError State :=
  ts.foldlM (step limit) s

end State

/-- The value of a text in which at most `limit` containers are open at a time. -/
def readWithin (limit : Nat) (cs : List Char) : Except SyntaxError Json :=
  (State.run limit (.value []) (tokens cs)).bind State.finish

/-- The value of a text. -/
def read (s : String) : Except SyntaxError Json :=
  readWithin nestingLimit s.toList

end SchemaWorkbench.Json
