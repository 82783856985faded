import SchemaWorkbench.Text.Cluster

/-!
# Typed lines

What is left of a line after its backspaces. A backspace erases the cluster before it, and nothing
at the start of the line. The sizes of the clusters are counted in bytes and kept in one byte each,
so of a cluster of `256` bytes or more only the last bytes go, and the line has no text if that
would leave a part of a character.

## Main definitions

* `dropBytes?`: a text without the bytes at its end
* `Typing.press`: one more cluster is typed
* `typed?`: what is left of a line
-/

namespace SchemaWorkbench.Text

/-- The text, read backwards, without its last `n` bytes, unless they end inside a character. -/
def dropBytes? (n : Nat) : List Char → Option (List Char)
  | [] => if n = 0 then some [] else none
  | c :: cs =>
    if n = 0 then some (c :: cs)
    else if c.utf8Size ≤ n then dropBytes? (n - c.utf8Size) cs
    else none

/-- What was typed so far. -/
structure Typing where
  /-- The text, read backwards. -/
  text : List Char := []
  /-- The sizes of the clusters that can be erased, newest first. -/
  sizes : List UInt8 := []
  deriving DecidableEq, Repr

namespace Typing

/-- The size of a cluster. -/
def sizeOf (cluster : List Char) : UInt8 :=
  UInt8.ofNat (cluster.foldl (fun n c => n + c.utf8Size) 0)

/-- One more cluster is typed; a backspace erases the one before it. -/
def press (t : Typing) (cluster : List Char) : Option Typing :=
  if cluster = ['\x08'] then
    match t.sizes with
    | [] => some t
    | n :: sizes => (dropBytes? n.toNat t.text).map fun text => { text, sizes }
  else
    some { text := cluster.reverse ++ t.text, sizes := sizeOf cluster :: t.sizes }

end Typing

/-- What is left of a line after its backspaces. -/
def typed? (cs : List Char) : Option (List Char) :=
  ((clusters cs).foldlM Typing.press {}).map fun t => t.text.reverse

end SchemaWorkbench.Text
