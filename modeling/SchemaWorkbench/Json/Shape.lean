import SchemaWorkbench.Json.Reader
import SchemaWorkbench.Text.Quoted

/-!
# Reading typed data from JSON

A value can have another shape than the one that is asked for. The readers of this module ask for
the basic shapes, and for records, whose fields are the members of an object or, in the same order,
the items of an array.

## Main definitions

* `Found`: what a value is, for messages
* `ShapeError`: the ways in which a value does not fit
* `Error`: a text breaks the grammar or its value does not fit
* `asText`, `asFlag`, `asList`, `asOptional`, `asChoice`: the basic shapes
* `asRecord`, `memberAt?`, `mandatory`, `itemAt`, `itemAt?`: records and their fields
* `readFlag`: the truth value of a text
-/

namespace SchemaWorkbench.Json

/-- What a value is. -/
inductive Found where
  | null
  | bool (value : Bool)
  | num (value : Number)
  | str (value : String)
  | sequence
  | map

/-- What a value is. -/
def found : Json → Found
  | .null => .null
  | .bool b => .bool b
  | .num n => .num n
  | .str s => .str s
  | .arr _ => .sequence
  | .obj _ => .map

/-- The wording of what a value is. -/
def Found.describe : Found → String
  | .null => "null"
  | .bool b => "boolean `" ++ toString b ++ "`"
  | .num (.int n) => "integer `" ++ toString n ++ "`"
  | .num (.double x) => "floating point `" ++ Number.doubleText x ++ "`"
  | .str s => "string " ++ Text.quoted s
  | .sequence => "sequence"
  | .map => "map"

/-- A value does not have the shape that is asked for. -/
inductive ShapeError where
  /-- The value is of another kind. -/
  | wrongKind (found : Found) (expected : String)
  | missingField (name : String)
  | duplicateField (name : String)
  | unknownVariant (name : String) (known : List String)
  /-- A choice that is written as an object does not have exactly one member. -/
  | notOneMember
  /-- An array ends before the fields of a record do. -/
  | tooFewItems (length : Nat) (record : String) (fields : Nat)
  | tooManyItems (length : Nat)

/-- The wording of a shape error. -/
def ShapeError.message : ShapeError → String
  | wrongKind found expected => "invalid type: " ++ found.describe ++ ", expected " ++ expected
  | missingField name => "missing field `" ++ name ++ "`"
  | duplicateField name => "duplicate field `" ++ name ++ "`"
  | unknownVariant name known =>
    "unknown variant `" ++ name ++ "`, expected one of "
      ++ ", ".intercalate (known.map fun k => "`" ++ k ++ "`")
  | notOneMember => "invalid value: map, expected map with a single key"
  | tooFewItems length record fields =>
    "invalid length " ++ toString length ++ ", expected struct " ++ record ++ " with "
      ++ toString fields ++ " elements"
  | tooManyItems length =>
    "invalid length " ++ toString length ++ ", expected fewer elements in array"

/-- A text breaks the grammar, or its value does not have the shape that is asked for. -/
inductive Error where
  | malformed (cause : SyntaxError)
  | misshapen (cause : ShapeError)

/-- The wording of an error. -/
def Error.message : Error → String
  | malformed cause => cause.message
  | misshapen cause => cause.message

/-! ## The basic shapes -/

/-- A string. -/
def asText : Json → Except ShapeError String
  | .str s => .ok s
  | v => .error (.wrongKind v.found "a string")

/-- A truth value. -/
def asFlag : Json → Except ShapeError Bool
  | .bool b => .ok b
  | v => .error (.wrongKind v.found "a boolean")

/-- A list of values of the same shape. -/
def asList {α : Type} (item : Json → Except ShapeError α) : Json → Except ShapeError (List α)
  | .arr items => items.mapM item
  | v => .error (.wrongKind v.found "a sequence")

/-- A value or null. -/
def asOptional {α : Type} (value : Json → Except ShapeError α) :
    Json → Except ShapeError (Option α)
  | .null => .ok none
  | v => some <$> value v

/-- One of the named variants: its name, or an object with the name as its only key and null as its
value. -/
def asChoice {α : Type} (variants : List (String × α)) (v : Json) : Except ShapeError α :=
  let variant (name : String) : Except ShapeError α :=
    match variants.lookup name with
    | some a => .ok a
    | none => .error (.unknownVariant name (variants.map (·.1)))
  match v with
  | .str name => variant name
  | .obj members =>
    match (members.map (·.1)).eraseDups with
    | [name] => do
      let a ← variant name
      match lookup? members name with
      | some .null | none => .ok a
      | some content => .error (.wrongKind content.found "unit")
    | _ => .error .notOneMember
  | v => .error (.wrongKind v.found "string or map")

/-! ## Records -/

/-- The name of a record type, for messages, and the number of its fields. -/
structure RecordType where
  name : String
  fields : Nat

/-- The value of a member, if the object has it. -/
def memberAt? {α : Type} (members : List (String × Json)) (key : String)
    (value : Json → Except ShapeError α) : Except ShapeError (Option α) :=
  match lookup? members key with
  | none => .ok none
  | some v => some <$> value v

/-- A field that must be there. -/
def mandatory {α : Type} (key : String) : Option α → Except ShapeError α
  | some a => .ok a
  | none => .error (.missingField key)

/-- The item at an index, which the array must have. -/
def itemAt {α : Type} (type : RecordType) (items : List Json) (i : Nat)
    (value : Json → Except ShapeError α) : Except ShapeError α :=
  match items[i]? with
  | none => .error (.tooFewItems items.length type.name type.fields)
  | some v => value v

/-- The item at an index, if the array has it. -/
def itemAt? {α : Type} (items : List Json) (i : Nat) (value : Json → Except ShapeError α) :
    Except ShapeError (Option α) :=
  match items[i]? with
  | none => .ok none
  | some v => some <$> value v

/-- A record from the members of an object or from the items of an array, which has no more items
than the record has fields. -/
def asRecord {α : Type} (type : RecordType)
    (ofMembers : List (String × Json) → Except ShapeError α)
    (ofItems : List Json → Except ShapeError α) : Json → Except ShapeError α
  | .obj members => ofMembers members
  | .arr items => do
    let a ← ofItems items
    if type.fields < items.length then .error (.tooManyItems items.length) else .ok a
  | v => .error (.wrongKind v.found ("struct " ++ type.name))

/-! ## A truth value on its own -/

/-- The value of a text that should hold a truth value and nothing else. Of another value only the
first token is looked at. -/
def readFlag (cs : List Char) : Except Error Bool :=
  let wrong (found : Found) := .error (.misshapen (.wrongKind found "a boolean"))
  match tokens cs with
  | [] => .error (.malformed .endInValue)
  | .scalar (.bool b) :: [] => .ok b
  | .scalar (.bool _) :: _ => .error (.malformed .trailingCharacters)
  | .scalar v :: _ => wrong v.found
  | .text s :: _ => wrong (.str s)
  | .listOpen :: _ => wrong .sequence
  | .objectOpen :: _ => wrong .map
  | .brokenText e :: _ | .broken e :: _ => .error (.malformed e)
  | .listClose :: _ | .objectClose :: _ | .colon :: _ | .comma :: _ =>
    .error (.malformed .expectedValue)

end SchemaWorkbench.Json
