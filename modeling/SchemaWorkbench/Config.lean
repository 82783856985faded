import SchemaWorkbench.Dialect
import SchemaWorkbench.History
import SchemaWorkbench.Client
import SchemaWorkbench.Toml.Reader

/-!
# Configuration

A configuration file has three sections: `[server]` with a `url`, `[generate]` with a `dialect` and
`[history]` with a `capacity`. Everything may be left out, and unknown keys are ignored, but what is
given must fit. A section may also be an array of its values in order, and a date counts as a
section without keys.

## Main definitions

* `Config`: the settings
* `Config.ofToml?`: the settings of a file
-/

namespace SchemaWorkbench

open Toml

/-- The settings of the program. -/
structure Config where
  serviceUrl : String := defaultServiceUrl
  dialect : Dialect := .mySql
  capacity : Nat := History.defaultCapacity
  deriving DecidableEq, Repr

namespace Config

/-- A string. -/
def text? : Node → Option String
  | .text s => some s
  | _ => none

/-- An integer that is not negative. -/
def count? : Node → Option Nat
  | .integer n => if 0 ≤ n then some n.toNat else none
  | _ => none

/-- The node is an empty table or array. -/
def isEmpty : Node → Bool
  | .table _ members => members.isEmpty
  | .array items => items.isEmpty
  | .tables items => items.isEmpty
  | _ => false

/-- The exact name of a dialect, or a table with that name as its only key and nothing in it. -/
def dialect? : Node → Option Dialect
  | .text s => Dialect.names.lookup s
  | .table _ [(name, content)] => if isEmpty content then Dialect.names.lookup name else none
  | _ => none

/-- The only setting of a section, or `default` if the section does not give it. -/
def setting? {α : Type} (key : String) (default : α) (value? : Node → Option α) :
    Option Node → Option α
  | none => some default
  | some (.table _ members) => ((members.lookup key).map value?).getD (some default)
  | some (.array items) => (items.head?.map value?).getD (some default)
  | some (.tables items) => (items.head?.map value?).getD (some default)
  | some .dateTime => some default
  | some _ => none

/-- The settings of a configuration file, if it is well formed. -/
def ofToml? (s : String) : Option Config := do
  let sections ← Toml.read? s
  let serviceUrl ← setting? "url" defaultServiceUrl text? (sections.lookup "server")
  let dialect ← setting? "dialect" .mySql dialect? (sections.lookup "generate")
  let capacity ← setting? "capacity" History.defaultCapacity count? (sections.lookup "history")
  return { serviceUrl, dialect, capacity }

end Config

end SchemaWorkbench
