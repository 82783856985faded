import SchemaWorkbench.Text.Whitespace

/-!
# Cutting a text into pieces

## Main definitions

* `pieces`: the texts between the characters that satisfy a predicate
* `cutAt?`: a text before and after the first occurrence of a character
* `words`: the maximal runs of characters other than whitespace
* `lines`: the lines of a text, each without its line ending
-/

namespace SchemaWorkbench.Text

/-- The texts between the characters that satisfy `p`; there is always at least one. -/
def pieces (p : Char → Bool) : List Char → List (List Char)
  | [] => [[]]
  | c :: cs =>
    if p c then
      [] :: pieces p cs
    else
      match pieces p cs with
      | [] => [[c]]
      | piece :: rest => (c :: piece) :: rest

/-- The texts before and after the first occurrence of `sep`. -/
def cutAt? (sep : Char) : List Char → Option (List Char × List Char)
  | [] => none
  | c :: cs =>
    if c = sep then
      some ([], cs)
    else
      (cutAt? sep cs).map fun cut => (c :: cut.1, cut.2)

/-- The maximal runs of characters other than whitespace. -/
def words (cs : List Char) : List (List Char) :=
  (pieces isWhitespace cs).filter (· ≠ [])

/-- The lines of a text; a line ends before a line feed, or before a carriage return followed by
one, and a text that ends with a line feed has no empty last line. -/
def lines : List Char → List (List Char)
  | [] => []
  | '\n' :: cs => [] :: lines cs
  | '\r' :: '\n' :: cs => [] :: lines cs
  | c :: cs =>
    match lines cs with
    | [] => [[c]]
    | line :: rest => (c :: line) :: rest

end SchemaWorkbench.Text
