/-!
# Whitespace

The characters with the Unicode property `White_Space`, and what it means to trim a text and to find
it blank.

## Main definitions

* `isWhitespace`: the property of characters
* `trimStart`, `trimEnd`, `trim`: a text without the whitespace at its ends
* `isBlank`: a text of whitespace only
-/

namespace SchemaWorkbench.Text

/-- The character has the Unicode property `White_Space`. -/
def isWhitespace (c : Char) : Bool :=
  let n := c.toNat
  (0x9 ≤ n && n ≤ 0xD) || n == 0x20 || n == 0x85 || n == 0xA0 || n == 0x1680
    || (0x2000 ≤ n && n ≤ 0x200A) || n == 0x2028 || n == 0x2029 || n == 0x202F || n == 0x205F
    || n == 0x3000

/-- The text without the whitespace it starts with. -/
def trimStart (cs : List Char) : List Char :=
  cs.dropWhile isWhitespace

/-- The text without the whitespace it ends with. -/
def trimEnd (cs : List Char) : List Char :=
  (cs.reverse.dropWhile isWhitespace).reverse

/-- The text without the whitespace at its ends. -/
def trim (cs : List Char) : List Char :=
  trimEnd (trimStart cs)

/-- The text holds nothing but whitespace. -/
def isBlank (cs : List Char) : Bool :=
  cs.all isWhitespace

@[simp] theorem trim_nil : trim [] = [] := rfl

@[simp] theorem isBlank_nil : isBlank [] = true := rfl

end SchemaWorkbench.Text
