/-!
# TOML tables

A TOML document is built up key by key. How a table came about decides who may still add to it: one
that a header opens is closed to dotted keys, one that dotted keys made is closed to headers, and
one that is written inline is complete.

## Main definitions

* `Node`: a value, a table or an array of tables
* `Members.descend`: a change of the table at the end of a path
* `Members.assign`, `Members.openTable`, `Members.openItem`: what a line of a document does
-/

namespace SchemaWorkbench.Toml

/-- How a table came about. -/
inductive Origin where
  /-- A header opens it, or it is the document itself. -/
  | header
  /-- Headers mention it on the way to another table. -/
  | passedBy
  /-- Dotted keys made it. -/
  | dotted
  /-- It is written inline. -/
  | inline
  deriving DecidableEq, Repr

/-- A value, a table or an array of tables. -/
inductive Node where
  | text (value : String)
  | integer (value : Int)
  | flag (value : Bool)
  | float
  | dateTime
  | array (items : List Node)
  | table (origin : Origin) (members : List (String × Node))
  | tables (items : List Node)

/-- The members of a table, each key once. -/
abbrev Members := List (String × Node)

namespace Members

/-- The members with another value for a key that is there. -/
def replace (ms : Members) (key : String) (n : Node) : Members :=
  ms.map fun m => if m.1 = key then (key, n) else m

/-- The members with the table at the end of a path changed by `f`, which is told how that table
came about. Tables that are missing on the way are made; of an array of tables the last one
counts. -/
def descend (dotted : Bool) (f : Origin → Members → Option Members) :
    List String → Origin → Members → Option Members
  | [], origin, ms => f origin ms
  | key :: path, _, ms =>
    match ms.lookup key with
    | none => do
      let origin := if dotted then Origin.dotted else .passedBy
      let inner ← descend dotted f path origin []
      return ms ++ [(key, .table origin inner)]
    | some (.table origin inner) =>
      if origin = .inline ∨ (dotted ∧ origin = .header) then
        none
      else do
        let inner ← descend dotted f path origin inner
        return ms.replace key (.table origin inner)
    | some (.tables items) =>
      match items.getLast? with
      | some (.table origin inner) => do
        let inner ← descend dotted f path origin inner
        return ms.replace key (.tables (items.dropLast ++ [.table origin inner]))
      | _ => none
    | some _ => none

/-- The members with a new key at the end of a dotted path. Only a table that dotted keys made takes
a key behind a path, and only another one takes a key on its own. -/
def assign (path : List String) (key : String) (n : Node) : Origin → Members → Option Members :=
  descend true
    (fun origin ms =>
      if (origin = .dotted) ≠ (path ≠ []) ∨ (ms.lookup key).isSome then none
      else some (ms ++ [(key, n)]))
    path

/-- The members with the table opened that a header names. -/
def openTable (path : List String) (key : String) : Members → Option Members :=
  descend false
    (fun _ ms =>
      match ms.lookup key with
      | none => some (ms ++ [(key, .table .header [])])
      | some (.table .passedBy inner) => some (ms.replace key (.table .header inner))
      | some _ => none)
    path .header

/-- The members with one more table in the array of tables that a header names. -/
def openItem (path : List String) (key : String) : Members → Option Members :=
  descend false
    (fun _ ms =>
      match ms.lookup key with
      | none => some (ms ++ [(key, .tables [.table .header []])])
      | some (.tables items) => some (ms.replace key (.tables (items ++ [.table .header []])))
      | some _ => none)
    path .header

end Members

end SchemaWorkbench.Toml
