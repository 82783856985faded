import SchemaWorkbench.Json.Number

/-!
# Printing JSON

Strings are written with the least escaping that JSON asks for. The layout is a parameter: what
stands before an item, and what stands after a colon.

## Main definitions

* `Layout`, `Layout.indented`, `Layout.dense`
* `print`: the text of a value in a layout
* `Json.pretty`, `Json.compact`: the text of a value over several lines and on one line
-/

namespace SchemaWorkbench.Json

/-- How a container is laid out. -/
structure Layout where
  /-- What stands before an item of a container, or before its end, at a depth. -/
  gap : Nat → List Char
  /-- What stands between a key and its value. -/
  afterKey : List Char

/-- Every item on a line of its own, indented by two spaces more than its container. -/
def Layout.indented : Layout where
  gap depth := '\n' :: List.replicate (2 * depth) ' '
  afterKey := [':', ' ']

/-- Everything on one line and without spaces. -/
def Layout.dense : Layout where
  gap _ := []
  afterKey := [':']

/-- A character as it is written in a string. -/
def escapeChar (c : Char) : List Char :=
  if c = '"' then ['\\', '"']
  else if c = '\\' then ['\\', '\\']
  else if c = '\x08' then ['\\', 'b']
  else if c = '\x0c' then ['\\', 'f']
  else if c = '\n' then ['\\', 'n']
  else if c = '\r' then ['\\', 'r']
  else if c = '\t' then ['\\', 't']
  else if c.toNat < 0x20 then
    ['\\', 'u', '0', '0', Nat.digitChar (c.toNat / 16), Nat.digitChar (c.toNat % 16)]
  else [c]

/-- A string with its quotes. -/
def printText (s : String) : List Char :=
  '"' :: s.toList.flatMap escapeChar ++ ['"']

mutual

/-- The text of a value that stands at a depth. -/
def print (style : Layout) (depth : Nat) : Json → List Char
  | .null => ['n', 'u', 'l', 'l']
  | .bool true => ['t', 'r', 'u', 'e']
  | .bool false => ['f', 'a', 'l', 's', 'e']
  | .num n => n.text.toList
  | .str s => printText s
  | .arr [] => ['[', ']']
  | .arr (v :: vs) =>
    '[' :: style.gap (depth + 1) ++ print style (depth + 1) v ++ printItems style (depth + 1) vs
      ++ style.gap depth ++ [']']
  | .obj [] => ['{', '}']
  | .obj ((key, v) :: ms) =>
    '{' :: style.gap (depth + 1) ++ printText key ++ style.afterKey ++ print style (depth + 1) v
      ++ printMembers style (depth + 1) ms ++ style.gap depth ++ ['}']

/-- The items of a list after the first one. -/
def printItems (style : Layout) (depth : Nat) : List Json → List Char
  | [] => []
  | v :: vs => ',' :: style.gap depth ++ print style depth v ++ printItems style depth vs

/-- The members of an object after the first one. -/
def printMembers (style : Layout) (depth : Nat) : List (String × Json) → List Char
  | [] => []
  | (key, v) :: ms =>
    ',' :: style.gap depth ++ printText key ++ style.afterKey ++ print style depth v
      ++ printMembers style depth ms

end

/-- The text of a value over several lines. -/
def pretty (v : Json) : String :=
  String.ofList (print .indented 0 v)

/-- The text of a value on one line. -/
def compact (v : Json) : String :=
  String.ofList (print .dense 0 v)

end SchemaWorkbench.Json
