/-!
# Bounded history

A history keeps the newest snapshots of a state, up to its capacity, and a cursor on the current
one. A push drops the snapshots after the cursor and, when the history is full, the oldest one; undo
and redo move the cursor. After every change each observer is told whether there is something to
undo and something to redo.

## Main definitions

* `History`: snapshots, cursor, capacity and what the observers were told
* `History.push`, `History.undo`, `History.redo`, `History.clear`: the changes
* `History.flags`: whether undo and redo would do something
* `History.record`: what one observer was told
-/

namespace SchemaWorkbench

/-- Whether there is something to undo and something to redo. -/
structure History.Flags where
  canUndo : Bool := false
  canRedo : Bool := false
  deriving DecidableEq, Repr

/-- One observer is told the flags. -/
structure History.Notice where
  observer : Nat
  flags : History.Flags
  deriving DecidableEq, Repr

/-- The newest snapshots of a state with a cursor on the current one. -/
structure History (α : Type) where
  /-- The snapshots, oldest first. -/
  states : List α := []
  /-- The index of the current snapshot. -/
  cursor : Option Nat := none
  /-- The greatest number of snapshots. -/
  capacity : Nat
  /-- There is room for the current snapshot. -/
  capacity_pos : 0 < capacity := by omega
  /-- The number of observers; they are numbered in the order in which they subscribed. -/
  observers : Nat := 0
  /-- What the observers were told, oldest first. -/
  notices : List History.Notice := []

namespace History

/-- The capacity of a history for which none is asked. -/
def defaultCapacity : Nat := 50

variable {α : Type}

/-- An empty history of the given capacity; there is always room for one snapshot. -/
def withCapacity (capacity : Nat) : History α :=
  { capacity := max capacity 1 }

/-- An empty history of the usual capacity. -/
def empty : History α :=
  withCapacity defaultCapacity

/-- There is a snapshot before the current one. -/
def canUndo (h : History α) : Bool :=
  h.cursor.any (0 < ·)

/-- There is a snapshot after the current one. -/
def canRedo (h : History α) : Bool :=
  match h.cursor with
  | some c => c + 1 < h.states.length
  | none => !h.states.isEmpty

/-- Whether there is something to undo and something to redo. -/
def flags (h : History α) : Flags :=
  ⟨h.canUndo, h.canRedo⟩

/-- The current snapshot. -/
def current (h : History α) : Option α :=
  h.cursor.bind fun c => h.states[c]?

/-- One more observer. -/
def subscribe (h : History α) : History α :=
  { h with observers := h.observers + 1 }

/-- Every observer is told the flags, in the order of subscription. -/
def publish (h : History α) : History α :=
  { h with notices := h.notices ++ (List.range h.observers).map fun i => ⟨i, h.flags⟩ }

/-- What an observer was told, oldest first. -/
def record (h : History α) (observer : Nat) : List Flags :=
  (h.notices.filter (·.observer == observer)).map (·.flags)

/-- The snapshots up to the cursor. -/
def upToCursor (h : History α) : List α :=
  h.states.take (h.cursor.elim 0 (· + 1))

/-- A new snapshot after the current one. What came after that one is dropped, and the oldest
snapshots go when there is no more room. -/
def push (h : History α) (state : α) : History α :=
  let states := h.upToCursor ++ [state]
  let states := states.drop (states.length - h.capacity)
  publish { h with states, cursor := some (states.length - 1) }

/-- One snapshot back, which is returned; nothing changes if there is none. -/
def undo (h : History α) : Option α × History α :=
  if h.canUndo then
    let cursor := h.cursor.elim 0 (· - 1)
    (h.states[cursor]?, publish { h with cursor := some cursor })
  else
    (none, h)

/-- One snapshot forward, which is returned; nothing changes if there is none. -/
def redo (h : History α) : Option α × History α :=
  if h.canRedo then
    let cursor := h.cursor.elim 0 (· + 1)
    (h.states[cursor]?, publish { h with cursor := some cursor })
  else
    (none, h)

/-- No snapshots. -/
def clear (h : History α) : History α :=
  publish { h with states := [], cursor := none }

/-- The sizes of a history in one line. -/
def summary (h : History α) : String :=
  "HistoryManager \x7b len: " ++ toString h.states.length ++ ", cursor: "
    ++ (match h.cursor with | some c => "Some(" ++ toString c ++ ")" | none => "None")
    ++ ", capacity: " ++ toString h.capacity ++ ", observers: " ++ toString h.observers ++ " \x7d"

end History

end SchemaWorkbench
