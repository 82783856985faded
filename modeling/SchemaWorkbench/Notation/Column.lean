import SchemaWorkbench.Schema.Basic
import SchemaWorkbench.Schema.ColumnType
import SchemaWorkbench.Text.Pieces

/-!
# Column lines

A column is written `name(type, flags...)`, in any text that contains such a group: the leftmost
group counts. Letter case, order and repetition of the flags do not matter; of several references or
default values the first one counts.

## Main definitions

* `Group`: a name with the text between its parentheses
* `Group.atStart?`, `Group.find?`: the group at the start of a text, and the leftmost one
* `Group.column`: the column that a group describes
* `columnDefinition?`, `columnLine?`: the column of a definition, and of a line of the notation
-/

namespace SchemaWorkbench.Notation

open Text

/-- The character may stand in the name of a column: an ASCII letter, a digit or an underscore. -/
def isWordChar (c : Char) : Bool :=
  c.isAlphanum || c == '_'

/-- A name with the text between its parentheses. -/
structure Group where
  name : List Char
  content : List Char
  deriving DecidableEq, Repr

namespace Group

/-- The group that a text starts with: a name, whitespace, and text without a closing parenthesis
between parentheses. Neither the name nor the text is empty. -/
def atStart? (cs : List Char) : Option Group :=
  match trimStart (cs.dropWhile isWordChar) with
  | '(' :: inner =>
    let name := cs.takeWhile isWordChar
    let content := inner.takeWhile (· ≠ ')')
    if name = [] ∨ content = [] ∨ inner.dropWhile (· ≠ ')') = [] then
      none
    else
      some ⟨name, content⟩
  | _ => none

/-- The leftmost group of a text. -/
def find? : List Char → Option Group
  | [] => none
  | c :: cs => atStart? (c :: cs) <|> find? cs

/-- The items of a group: its type and its flags, trimmed and in lower case. -/
def items (g : Group) : List (List Char) :=
  (pieces (· = ',') g.content).map fun item => lower (trim item)

end Group

/-! ## Flags -/

/-- The flags of a primary key. -/
def primaryKeyFlags : List String := ["clé primaire", "primary key"]

/-- The flags of a column that counts by itself. -/
def autoIncrementFlags : List String := ["auto", "auto_increment"]

/-- The flags of a column that must have a value. -/
def requiredFlags : List String := ["requis", "required"]

/-- The flag of a column without repeated values. -/
def uniqueFlags : List String := ["unique"]

/-- What a flag starts with that gives a reference. -/
def referencePrefixes : List String := ["référence:", "reference:"]

/-- What a flag starts with that gives a default value. -/
def defaultPrefixes : List String := ["par défaut:", "default:"]

/-- The default values that stand for the time of insertion. -/
def nowWords : List String := ["maintenant", "aujourd'hui", "now", "today"]

/-- One of the flags is one of the words. -/
def hasFlag (flags : List (List Char)) (words : List String) : Bool :=
  flags.any fun flag => words.contains (String.ofList flag)

/-- The flag starts with one of the texts. -/
def startsWithAny (flag : List Char) (starts : List String) : Bool :=
  starts.any fun start => start.toList.isPrefixOf flag

/-- The value after the first colon of the first flag that starts with one of the texts; an empty
value counts as none. -/
def flagValue? (flags : List (List Char)) (starts : List String) : Option String := do
  let flag ← flags.find? (startsWithAny · starts)
  let (_, value) ← cutAt? ':' flag
  let value := trim value
  if value = [] then none else some (String.ofList value)

/-- The default value as it is kept: words for the present become `currentTimestamp`. -/
def normalizeDefault (value : String) : String :=
  if nowWords.contains value then currentTimestamp else value

/-! ## Columns -/

/-- The column with a name, the word of its type and its flags. -/
def columnOf (name type : List Char) (flags : List (List Char)) : Column where
  name := String.ofList name
  type := resolve (String.ofList type)
  primaryKey := hasFlag flags primaryKeyFlags
  autoIncrement := hasFlag flags autoIncrementFlags
  required := hasFlag flags requiredFlags
  unique := hasFlag flags uniqueFlags
  defaultValue := (flagValue? flags defaultPrefixes).map normalizeDefault
  reference := flagValue? flags referencePrefixes

/-- The column that a group describes. -/
def Group.column (g : Group) : Column :=
  columnOf g.name (g.items.headD []) g.items.tail

/-- The column of the leftmost group of a definition. -/
def columnDefinition? (cs : List Char) : Option Column :=
  (Group.find? cs).map Group.column

/-- The column of a line that starts with a dash. -/
def columnLine? (cs : List Char) : Option Column :=
  match trim cs with
  | '-' :: definition => columnDefinition? (trim definition)
  | _ => none

end SchemaWorkbench.Notation
