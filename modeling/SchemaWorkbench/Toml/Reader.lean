import SchemaWorkbench.Toml.Node
import SchemaWorkbench.Toml.Scan

/-!
# Reading TOML

A document is read line by line: a header opens a table or one more item of an array of tables, and
an assignment adds a key to the table that is open. Only arrays and inline tables nest.

## Main definitions

* `value?`: a value from the front of a text
* `Reading`: a document so far, with the table that is open
* `read?`: the members of a document
-/

namespace SchemaWorkbench.Toml

/-- A key and a value with space around it. -/
def assignment? (value : Scan Node) : Scan ((List String × String) × Node) := fun cs => do
  let (key, cs) ← key? cs
  match cs with
  | '=' :: cs =>
    let (node, cs) ← value (skipSpace cs)
    return ((key, node), skipSpace cs)
  | _ => none

/-- A value that holds no other values. -/
def scalarValue? (cs : List Char) : Option (Node × List Char) :=
  match cs with
  | 't' :: 'r' :: 'u' :: 'e' :: rest => some (.flag true, rest)
  | 'f' :: 'a' :: 'l' :: 's' :: 'e' :: rest => some (.flag false, rest)
  | cs =>
    match text? cs with
    | some (text, rest) => some (.text (String.ofList text), rest)
    | none =>
      match dateTime? cs with
      | some rest => some (.dateTime, rest)
      | none =>
        match number? cs with
        | some (.integer n, rest) => some (.integer n, rest)
        | some (.float, rest) => some (.float, rest)
        | none => none

mutual

/-- A value inside `depth` others; `fuel` bounds the number of steps. -/
def valueWithin? (depth : Nat) : Nat → Scan Node
  | 0, _ => none
  | fuel + 1, cs =>
    match cs with
    | '[' :: rest =>
      if depth + 1 < depthLimit then do
        let (items, rest) ← items? (depth + 1) fuel rest
        return (.array items, rest)
      else
        none
    | '{' :: rest =>
      if depth + 1 < depthLimit then
        match skipSpace rest with
        | '}' :: rest => some (.table .inline [], rest)
        | rest => do
          let (members, rest) ← members? (depth + 1) [] fuel rest
          return (.table .inline members, rest)
      else
        none
    | cs => scalarValue? cs

/-- The items of an array, behind its opening bracket or a comma. -/
def items? (depth : Nat) : Nat → Scan (List Node)
  | 0, _ => none
  | fuel + 1, cs =>
    match skipBlank cs.length cs with
    | ']' :: rest => some ([], rest)
    | cs => do
      let (item, rest) ← valueWithin? depth fuel cs
      match skipBlank rest.length rest with
      | ',' :: rest =>
        let (items, rest) ← items? depth fuel rest
        return (item :: items, rest)
      | ']' :: rest => return ([item], rest)
      | _ => none

/-- The members of an inline table, behind its opening brace or a comma. -/
def members? (depth : Nat) (members : Members) : Nat → Scan Members
  | 0, _ => none
  | fuel + 1, cs => do
    let (((path, key), node), rest) ← assignment? (valueWithin? depth fuel) cs
    let members ← members.assign path key node .header
    match rest with
    | ',' :: rest => members? depth members fuel rest
    | '}' :: rest => return (members, rest)
    | _ => none

end

/-- A value. -/
def value? (cs : List Char) : Option (Node × List Char) :=
  valueWithin? 0 (2 * cs.length + 1) cs

/-- A document so far, with the path to the table that is open. -/
structure Reading where
  root : Members := []
  path : List String := []

/-- The document after the header that starts behind its opening bracket. -/
def header? (r : Reading) (cs : List Char) : Option (Reading × List Char) :=
  match cs with
  | '[' :: cs => do
    let ((path, key), cs) ← key? cs
    let cs ← after? ']' cs >>= after? ']' >>= endLine?
    let root ← r.root.openItem path key
    return ({ root, path := path ++ [key] }, cs)
  | cs => do
    let ((path, key), cs) ← key? cs
    let cs ← after? ']' cs >>= endLine?
    let root ← r.root.openTable path key
    return ({ root, path := path ++ [key] }, cs)

/-- The document after an assignment. -/
def assign? (r : Reading) (cs : List Char) : Option (Reading × List Char) := do
  let (((path, key), node), cs) ← assignment? value? cs
  let cs ← endLine? cs
  let root ← Members.descend false (Members.assign path key node) r.path .header r.root
  return ({ r with root }, cs)

/-- The document after the lines of a text; `fuel` bounds their number. -/
def lines? : Nat → Reading → List Char → Option Reading
  | 0, _, _ => none
  | fuel + 1, r, cs =>
    match skipBlank cs.length cs with
    | [] => some r
    | '#' :: cs => (endLine? ('#' :: cs)).bind (lines? fuel r)
    | '[' :: cs => (header? r cs).bind fun next => lines? fuel next.1 next.2
    | cs => (assign? r cs).bind fun next => lines? fuel next.1 next.2

/-- The members of a document; a byte order mark at its start does not count. -/
def read? (s : String) : Option Members :=
  let cs := match s.toList with
    | '\uFEFF' :: cs => cs
    | cs => cs
  (lines? (cs.length + 1) {} cs).map (·.root)

end SchemaWorkbench.Toml
