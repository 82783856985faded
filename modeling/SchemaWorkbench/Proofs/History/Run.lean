import Mathlib.Data.List.DropRight
import Mathlib.Data.Nat.PSub
import SchemaWorkbench.History

/-!
# Runs of a history

What each operation does to the snapshots and to the cursor, and the runs of operations with what
they return. A push keeps the newest snapshots up to the current one, as many as leave room for the
new one; undo and redo leave the snapshots alone and move the cursor by one.

The operations compute positions by subtraction and look them up. The checked operations do the same
and give up where a subtraction would go below zero or a position lies outside the snapshots.

## Main definitions

* `History.Op`, `History.perform`: the operations as data, and what one of them does
* `History.run`, `History.replies`: what a sequence of operations makes of a history and returns
* `History.OnSnapshot`: the cursor, if there is one, is on a snapshot
* `Checked.push`, `Checked.undo`, `Checked.redo`, `Checked.current`: the operations with every
  position checked

## Main results

* `History.push_states`, `History.push_cursor`: the snapshots and the cursor after a push
* `History.undo_of_cursor`, `History.undo_of_not_canUndo`: what undo does
* `History.redo_of_lt`, `History.redo_of_not_canRedo`: what redo does
* `History.OnSnapshot.perform`: every operation leaves the cursor on a snapshot
* `Checked.perform_eq`, `Checked.current_eq`: no check fails while the cursor is on a snapshot
-/

namespace SchemaWorkbench

namespace History

variable {α : Type}

/-! ## Operations and runs -/

/-- An operation on a history. -/
inductive Op (α : Type) where
  | push (state : α)
  | undo
  | redo
  | clear

/-- What an operation returns, if it returns a snapshot, and what it makes of a history. -/
def perform (h : History α) : Op α → Option α × History α
  | .push state => (none, h.push state)
  | .undo => h.undo
  | .redo => h.redo
  | .clear => (none, h.clear)

/-- The history after a sequence of operations. -/
def run (h : History α) (ops : List (Op α)) : History α :=
  ops.foldl (fun h op => (h.perform op).2) h

/-- What a sequence of operations returns, one by one. -/
def replies (h : History α) : List (Op α) → List (Option α)
  | [] => []
  | op :: ops => (h.perform op).1 :: replies (h.perform op).2 ops

@[simp] theorem run_cons (h : History α) (op : Op α) (ops : List (Op α)) :
    h.run (op :: ops) = (h.perform op).2.run ops := rfl

/-! ## Telling the observers -/

@[simp] theorem states_publish (h : History α) : h.publish.states = h.states := rfl

@[simp] theorem cursor_publish (h : History α) : h.publish.cursor = h.cursor := rfl

/-! ## What the operations do -/

section Push

variable (h : History α) (a : α)

/-- A push keeps the newest snapshots up to the current one, as many as leave room for the new
one. -/
@[simp] theorem push_states :
    (h.push a).states = h.upToCursor.rtake (h.capacity - 1) ++ [a] := by
  have hpos := h.capacity_pos
  -- What goes is counted on the list with the new snapshot, which itself never goes.
  have hexcess : (h.upToCursor ++ [a]).length - h.capacity =
      h.upToCursor.length - (h.capacity - 1) := by
    simp only [List.length_append, List.length_singleton]
    omega
  rw [push, states_publish, hexcess, List.drop_append_of_le_length (by omega), List.rtake]

/-- After a push the cursor is on the new snapshot, which is the last one. -/
@[simp] theorem push_cursor :
    (h.push a).cursor = some (h.upToCursor.rtake (h.capacity - 1)).length := by
  have hlength : (h.push a).cursor = some ((h.push a).states.length - 1) := rfl
  rw [hlength, push_states]
  simp

@[simp] theorem push_capacity : (h.push a).capacity = h.capacity := rfl

end Push

variable {h : History α} {c : Nat}

theorem upToCursor_of_cursor (hc : h.cursor = some c) : h.upToCursor = h.states.take (c + 1) := by
  simp [upToCursor, hc]

theorem current_of_cursor (hc : h.cursor = some c) : h.current = h.states[c]? := by
  simp [current, hc]

theorem canUndo_of_cursor (hc : h.cursor = some c) : h.canUndo = decide (0 < c) := by
  simp [canUndo, hc]

theorem canRedo_of_cursor (hc : h.cursor = some c) :
    h.canRedo = decide (c + 1 < h.states.length) := by
  simp [canRedo, hc]

/-- There is nothing to undo, or the cursor is beyond the first snapshot. -/
theorem canUndo_eq_false_or (h : History α) :
    h.canUndo = false ∨ ∃ c, h.cursor = some (c + 1) := by
  rcases hc : h.cursor with _ | _ | c <;> simp [canUndo, hc]

/-- Undo moves the cursor back by one and returns the snapshot there. -/
theorem undo_of_cursor (hc : h.cursor = some (c + 1)) :
    h.undo = (h.states[c]?, publish { h with cursor := some c }) := by
  rw [undo, if_pos (by simp [canUndo, hc]), hc]
  rfl

theorem undo_of_not_canUndo (hu : h.canUndo = false) : h.undo = (none, h) := by
  rw [undo, if_neg (by simp [hu])]

/-- Redo moves the cursor forward by one and returns the snapshot there. -/
theorem redo_of_lt (hc : h.cursor = some c) (hlt : c + 1 < h.states.length) :
    h.redo = (h.states[c + 1]?, publish { h with cursor := some (c + 1) }) := by
  rw [redo, if_pos (by simpa [canRedo, hc] using hlt), hc]
  rfl

theorem redo_of_not_canRedo (hr : h.canRedo = false) : h.redo = (none, h) := by
  rw [redo, if_neg (by simp [hr])]

/-- There is a snapshot where redo moves to, also where there are snapshots without a cursor. -/
theorem redo_lt (hr : h.canRedo) : h.cursor.elim 0 (· + 1) < h.states.length := by
  cases hc : h.cursor with
  | none => simpa [canRedo, hc, List.length_pos_iff] using hr
  | some c => simpa [canRedo, hc] using hr

/-- No operation changes the capacity. -/
@[simp] theorem perform_capacity (h : History α) (op : Op α) :
    (h.perform op).2.capacity = h.capacity := by
  cases op with
  | push a => rfl
  | undo => simp only [perform, undo]; split <;> rfl
  | redo => simp only [perform, redo]; split <;> rfl
  | clear => rfl

/-! ## The cursor stays on a snapshot -/

/-- If there is a cursor, it is on a snapshot. -/
def OnSnapshot (h : History α) : Prop := ∀ c ∈ h.cursor, c < h.states.length

theorem onSnapshot_clear (h : History α) : h.clear.OnSnapshot := fun _ hc => by contradiction

/-- Every operation leaves the cursor on a snapshot. -/
theorem OnSnapshot.perform (hrange : h.OnSnapshot) (op : Op α) : (h.perform op).2.OnSnapshot := by
  cases op with
  | push a =>
    intro c hc
    obtain rfl := Option.some.inj ((push_cursor h a).symm.trans hc)
    simp [History.perform]
  | undo =>
    rcases h.canUndo_eq_false_or with hu | ⟨c, hc⟩
    · rwa [History.perform, undo_of_not_canUndo hu]
    · rw [History.perform, undo_of_cursor hc]
      rintro _ ⟨⟩
      exact Nat.lt_of_succ_lt (hrange _ hc)
  | redo =>
    cases hr : h.canRedo with
    | false => rwa [History.perform, redo_of_not_canRedo hr]
    | true =>
      rw [History.perform, redo, if_pos hr]
      rintro _ ⟨⟩
      exact redo_lt hr
  | clear => exact onSnapshot_clear h

/-- An undo that returns no snapshot does nothing. -/
theorem OnSnapshot.undo_of_eq_none (hrange : h.OnSnapshot) (hnone : h.undo.1 = none) :
    h.undo.2 = h := by
  rcases h.canUndo_eq_false_or with hu | ⟨c, hc⟩
  · rw [undo_of_not_canUndo hu]
  · have hlt : c < h.states.length := Nat.lt_of_succ_lt (hrange _ hc)
    rw [undo_of_cursor hc, List.getElem?_eq_getElem hlt] at hnone
    contradiction

/-- A redo that returns no snapshot does nothing. -/
theorem redo_of_eq_none (hnone : h.redo.1 = none) : h.redo.2 = h := by
  cases hr : h.canRedo with
  | false => rw [redo_of_not_canRedo hr]
  | true =>
    rw [redo, if_pos hr] at hnone
    dsimp only at hnone
    rw [List.getElem?_eq_getElem (redo_lt hr)] at hnone
    contradiction

/-! ## Operations that check their positions -/

namespace Checked

/-- The list without its first `n` elements, which it must have. -/
def cut (n : Nat) (l : List α) : Option (List α) :=
  if n ≤ l.length then some (l.drop n) else none

/-- A push that checks what it subtracts and where it cuts. -/
def push (h : History α) (state : α) : Option (History α) := do
  let states := h.upToCursor ++ [state]
  let states ←
    if h.capacity < states.length then
      (states.length.psub h.capacity).bind (cut · states)
    else
      some states
  let last ← states.length.psub 1
  return publish { h with states, cursor := some last }

/-- An undo that checks what it subtracts and where it looks. -/
def undo (h : History α) : Option (Option α × History α) :=
  match h.canUndo, h.cursor with
  | true, some c => do
    let c ← c.psub 1
    let state ← h.states[c]?
    return (some state, publish { h with cursor := some c })
  | _, _ => some (none, h)

/-- A redo that checks where it looks. -/
def redo (h : History α) : Option (Option α × History α) :=
  if h.canRedo then do
    let c := h.cursor.elim 0 (· + 1)
    let state ← h.states[c]?
    return (some state, publish { h with cursor := some c })
  else
    some (none, h)

/-- The current snapshot, where the position of the cursor is checked. -/
def current (h : History α) : Option (Option α) :=
  match h.cursor with
  | some c => h.states[c]?.map some
  | none => some none

/-- An operation with every position checked. -/
def perform (h : History α) : Op α → Option (Option α × History α)
  | .push state => (push h state).map (none, ·)
  | .undo => undo h
  | .redo => redo h
  | .clear => some (none, h.clear)

theorem push_eq (h : History α) (a : α) : push h a = some (h.push a) := by
  have hpos := h.capacity_pos
  have hne : 1 ≤ (h.upToCursor ++ [a]).length := by simp
  rw [push, History.push]
  dsimp only
  -- Where nothing has to go, the subtraction of the unchecked push is cut off at zero.
  by_cases hfull : h.capacity < (h.upToCursor ++ [a]).length
  · rw [if_pos hfull, Nat.psub_eq_sub hfull.le, Option.bind_some, cut, if_pos (Nat.sub_le _ _),
      Option.bind_eq_bind, Option.bind_some, Nat.psub_eq_sub (by rw [List.length_drop]; omega)]
    rfl
  · rw [if_neg hfull, Option.bind_eq_bind, Option.bind_some, Nat.psub_eq_sub hne,
      Nat.sub_eq_zero_of_le (Nat.le_of_not_lt hfull), List.drop_zero]
    rfl

theorem redo_eq (h : History α) : redo h = some h.redo := by
  rw [redo, History.redo]
  split
  · rename_i hr
    dsimp only
    rw [List.getElem?_eq_getElem (redo_lt hr)]
    rfl
  · rfl

variable {h : History α} (hrange : h.OnSnapshot)

include hrange

theorem undo_eq : undo h = some h.undo := by
  rcases h.canUndo_eq_false_or with hu | ⟨c, hc⟩
  · rw [undo, hu, undo_of_not_canUndo hu]
  · have hlt : c < h.states.length := Nat.lt_of_succ_lt (hrange _ hc)
    rw [undo_of_cursor hc, undo, canUndo_of_cursor hc, hc]
    simp [Nat.psub_succ, List.getElem?_eq_getElem hlt]

theorem current_eq : current h = some h.current := by
  cases hc : h.cursor with
  | none => simp [current, History.current, hc]
  | some c => simp [current, History.current, hc, List.getElem?_eq_getElem (hrange c hc)]

/-- No check fails while the cursor is on a snapshot. -/
theorem perform_eq (op : Op α) : perform h op = some (h.perform op) := by
  cases op with
  | push a => simp [perform, push_eq, History.perform]
  | undo => exact undo_eq hrange
  | redo => exact redo_eq h
  | clear => rfl

end Checked

end History

end SchemaWorkbench
