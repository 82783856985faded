/-!
# JSON values

A JSON value as it is written in a document: the members of an object keep their order, and a key
may occur more than once. Looking up a key finds its last occurrence.

## Main definitions

* `Number`: an integer of 64 bits, signed or unsigned, or a double
* `Json`: the values
* `Json.member?`: the value of a key of an object
-/

namespace SchemaWorkbench

/-- A number of a document. -/
inductive Json.Number where
  /-- An integer between the least signed and the greatest unsigned one of 64 bits. -/
  | int (value : Int)
  /-- A binary floating-point number. -/
  | double (value : Float)

/-- A JSON value. -/
inductive Json where
  | null
  | bool (value : Bool)
  | num (value : Json.Number)
  | str (value : String)
  | arr (items : List Json)
  | obj (members : List (String × Json))

namespace Json

/-- The value of the last member named `key`. -/
def lookup? (members : List (String × Json)) (key : String) : Option Json :=
  (members.reverse.find? (·.1 == key)).map (·.2)

/-- The value of a key, if the value is an object that has it. -/
def member? (key : String) : Json → Option Json
  | .obj members => lookup? members key
  | _ => none

/-- The items, if the value is an array. -/
def items? : Json → Option (List Json)
  | .arr items => some items
  | _ => none

/-- The text, if the value is a string. -/
def text? : Json → Option String
  | .str s => some s
  | _ => none

end Json

end SchemaWorkbench
