import SchemaWorkbench.Text.Casing.Context
import SchemaWorkbench.Text.Casing.Table

/-!
# Letter case

Full Unicode case mappings: one character can map to several, and a capital sigma at the end of a
word maps to the final form of the small letter.

## Main definitions

* `lowerChar`, `upperChar`: the mapping of a character on its own
* `lower`, `upper`: the mapping of a text
* `endsWord`: the context in which a capital sigma takes its final form
-/

namespace SchemaWorkbench.Text

open Casing

/-- The counterpart of a character beyond ASCII in the given runs, or the character itself. -/
def Casing.counterpart (runs : List CaseRun) (c : Char) : Char :=
  match runs.findSome? (·.map? c.toNat) with
  | some n => Char.ofNat n
  | none => c

/-- The lowercase form of a character on its own. -/
def lowerChar (c : Char) : List Char :=
  if c.toNat < 0x80 then
    [c.toLower]
  else if c = 'İ' then
    ['i', '\u0307']
  else
    [counterpart lowercaseRuns c]

/-- The uppercase form of a character. -/
def upperChar (c : Char) : List Char :=
  if c.toNat < 0x80 then
    [c.toUpper]
  else
    match uppercaseExpansions.find? (·.1 == c.toNat) with
    | some (_, form) => form.map Char.ofNat
    | none => [counterpart uppercaseRuns c]

/-- Apart from case-ignorable characters, the text goes on with a cased one. -/
def goesOnCased (cs : List Char) : Bool :=
  match cs.dropWhile isCaseIgnorable with
  | [] => false
  | c :: _ => isCased c

/-- A letter between `before`, read backwards, and `after` is the last of its word. -/
def endsWord (before after : List Char) : Bool :=
  goesOnCased before && !goesOnCased after

/-- The lowercase form of a text that follows `before`, read backwards. -/
def lowerAfter (before : List Char) : List Char → List Char
  | [] => []
  | c :: cs =>
    (if c = 'Σ' then [if endsWord before cs then 'ς' else 'σ'] else lowerChar c)
      ++ lowerAfter (c :: before) cs

/-- The lowercase form of a text. -/
def lower (cs : List Char) : List Char :=
  lowerAfter [] cs

/-- The uppercase form of a text. -/
def upper (cs : List Char) : List Char :=
  cs.flatMap upperChar

/-- The lowercase form of a string. -/
def lowercase (s : String) : String :=
  String.ofList (lower s.toList)

/-- The uppercase form of a string. -/
def uppercase (s : String) : String :=
  String.ofList (upper s.toList)

end SchemaWorkbench.Text
