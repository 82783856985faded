import Mathlib.Tactic.Tauto
import SchemaWorkbench.Proofs.History.Run

/-!
# A history is a bounded zipper

Seen from its current snapshot a history is what lies before it and what lies after it. Undo and
redo carry one snapshot across, and a push keeps only the newest part of the past. The snapshots of
the history are the past, the present and the future in a row, and its cursor is the length of the
past.

The relation of the two carries the invariant that the operations rely on: without a present there
is neither a past nor a future, so that a cursor is missing exactly when there are no snapshots, and
it is on a snapshot otherwise.

## Main definitions

* `Zipper`, `Zipper.perform`: a past, a present and a future, and the operations on them
* `Zipper.toList`, `Zipper.position`: the snapshots in a row, and where the present is
* `Zipper.Represents`: a zipper shows a history

## Main results

* `Represents.perform`: an operation keeps the two together and returns the same on both
* `run_refines_zipper`: so does every sequence of operations, and no position is out of range
-/

namespace SchemaWorkbench

namespace History

variable {α : Type}

/-- What lies before the current snapshot, the current snapshot, and what lies after it, each from
old to new. -/
structure Zipper (α : Type) where
  past : List α := []
  present : Option α := none
  future : List α := []

namespace Zipper

/-- The present goes to the past, of which the newest `capacity - 1` entries stay, and the future is
forgotten. -/
def push (capacity : Nat) (z : Zipper α) (state : α) : Zipper α :=
  { past := (z.past ++ z.present.toList).rtake (capacity - 1)
    present := some state
    future := [] }

/-- The newest entry of the past becomes the present, which goes to the future. -/
def undo (z : Zipper α) : Option α × Zipper α :=
  match z.past.getLast? with
  | some a => (some a, ⟨z.past.dropLast, some a, z.present.toList ++ z.future⟩)
  | none => (none, z)

/-- The oldest entry of the future becomes the present, which goes to the past. -/
def redo (z : Zipper α) : Option α × Zipper α :=
  match z.future with
  | a :: future => (some a, ⟨z.past ++ z.present.toList, some a, future⟩)
  | [] => (none, z)

/-- What an operation returns, if it returns an entry, and what it makes of a zipper. -/
def perform (capacity : Nat) (z : Zipper α) : Op α → Option α × Zipper α
  | .push state => (none, z.push capacity state)
  | .undo => z.undo
  | .redo => z.redo
  | .clear => (none, {})

/-- The zipper after a sequence of operations. -/
def run (capacity : Nat) (z : Zipper α) (ops : List (Op α)) : Zipper α :=
  ops.foldl (fun z op => (z.perform capacity op).2) z

/-- What a sequence of operations returns, one by one. -/
def replies (capacity : Nat) (z : Zipper α) : List (Op α) → List (Option α)
  | [] => []
  | op :: ops => (z.perform capacity op).1 :: replies capacity (z.perform capacity op).2 ops

/-- There is a past. -/
def canUndo (z : Zipper α) : Bool := !z.past.isEmpty

/-- There is a future. -/
def canRedo (z : Zipper α) : Bool := !z.future.isEmpty

/-- The entries in a row; there are none without a present. -/
def toList (z : Zipper α) : List α :=
  match z.present with
  | some a => z.past ++ a :: z.future
  | none => []

/-- Where the present is in the row. -/
def position (z : Zipper α) : Option Nat :=
  z.present.map fun _ => z.past.length

/-- The zipper shows the history: its entries are the snapshots, its present is where the cursor is,
and nothing is around a present that is missing. -/
structure Represents (h : History α) (z : Zipper α) : Prop where
  states : h.states = z.toList
  cursor : h.cursor = z.position
  alone : z.present = none → z.past = [] ∧ z.future = []
  length_le : h.states.length ≤ h.capacity

section

variable {h : History α}

/-- The empty zipper shows a history without snapshots. -/
theorem represents_empty (hstates : h.states = []) (hcursor : h.cursor = none) :
    Represents h {} where
  states := hstates
  cursor := hcursor
  alone _ := ⟨rfl, rfl⟩
  length_le := by simp [hstates]

/-- Around a present there may be anything. -/
theorem represents_present {past future : List α} {a : α}
    (hstates : h.states = past ++ a :: future) (hcursor : h.cursor = some past.length)
    (hle : h.states.length ≤ h.capacity) : Represents h ⟨past, some a, future⟩ where
  states := hstates
  cursor := hcursor
  alone hnone := absurd hnone (Option.some_ne_none a)
  length_le := hle

end

namespace Represents

variable {h : History α} {z : Zipper α}

theorem past_eq_nil (r : Represents h z) (hp : z.present = none) : z.past = [] := (r.alone hp).1

theorem future_eq_nil (r : Represents h z) (hp : z.present = none) : z.future = [] :=
  (r.alone hp).2

/-! ## What is seen of a zipper is seen of the history -/

theorem onSnapshot (r : Represents h z) : h.OnSnapshot := by
  intro c hc
  rw [r.cursor, position] at hc
  obtain ⟨a, ha, rfl⟩ := Option.map_eq_some_iff.mp hc
  simp [r.states, toList, ha]

theorem current_eq (r : Represents h z) : h.current = z.present := by
  rw [current, r.cursor, r.states, position, toList]
  cases z.present <;> simp

theorem canUndo_eq (r : Represents h z) : h.canUndo = z.canUndo := by
  rw [History.canUndo, r.cursor, position, canUndo]
  cases hp : z.present with
  | none => simp [r.past_eq_nil hp]
  | some a => cases z.past <;> simp

theorem canRedo_eq (r : Represents h z) : h.canRedo = z.canRedo := by
  rw [History.canRedo, r.cursor, r.states, position, toList, canRedo]
  cases hp : z.present with
  | none => simp [r.future_eq_nil hp]
  | some a => cases z.future <;> simp

/-- What lies up to the cursor is the past with the present. -/
theorem upToCursor_eq (r : Represents h z) : h.upToCursor = z.past ++ z.present.toList := by
  rw [upToCursor, r.cursor, r.states, position, toList]
  cases hp : z.present with
  | none => simp [r.past_eq_nil hp]
  | some a => simp [List.take_append, List.take_of_length_le]

/-! ## The operations -/

theorem push (r : Represents h z) (a : α) : Represents (h.push a) (z.push h.capacity a) := by
  refine represents_present ?_ ?_ ?_
  · rw [push_states, r.upToCursor_eq]
  · rw [push_cursor, r.upToCursor_eq]
  · have hpos := h.capacity_pos
    rw [push_states, push_capacity, List.length_append, List.rtake, List.length_drop,
      List.length_singleton]
    omega

/-- A zipper with a past or a future has a present. -/
theorem exists_present (r : Represents h z) (hne : z.past ≠ [] ∨ z.future ≠ []) :
    ∃ p, z.present = some p := by
  cases hp : z.present with
  | none => exact absurd (r.alone hp) (by tauto)
  | some p => exact ⟨p, rfl⟩

theorem undo (r : Represents h z) : Represents h.undo.2 z.undo.2 ∧ h.undo.1 = z.undo.1 := by
  obtain ⟨past, present, future⟩ := z
  rcases List.eq_nil_or_concat past with rfl | ⟨past, a, rfl⟩
  · rw [undo_of_not_canUndo (by rw [r.canUndo_eq]; rfl)]
    exact ⟨r, rfl⟩
  · rw [List.concat_eq_append] at r ⊢
    -- What moves to the future is a present, since there is a past.
    obtain ⟨p, rfl⟩ := r.exists_present (.inl (by simp))
    have hc : h.cursor = some (past.length + 1) := by simp [r.cursor, position]
    have hs : h.states = past ++ a :: p :: future := by simp [r.states, toList]
    rw [undo_of_cursor hc, Zipper.undo]
    simp only [List.getLast?_concat, List.dropLast_concat]
    exact ⟨represents_present hs rfl r.length_le, by simp [hs]⟩

theorem redo (r : Represents h z) : Represents h.redo.2 z.redo.2 ∧ h.redo.1 = z.redo.1 := by
  obtain ⟨past, present, future⟩ := z
  cases future with
  | nil =>
    rw [redo_of_not_canRedo (by rw [r.canRedo_eq]; rfl)]
    exact ⟨r, rfl⟩
  | cons a future =>
    obtain ⟨p, rfl⟩ := r.exists_present (.inr (by simp))
    have hc : h.cursor = some past.length := r.cursor
    have hs : h.states = (past ++ [p]) ++ a :: future := by simp [r.states, toList]
    rw [redo_of_lt hc (by simp [hs]), Zipper.redo]
    exact ⟨represents_present hs (by simp) r.length_le, by simp [hs]⟩

/-- **An operation keeps a history and its zipper together**, and returns the same on both. -/
theorem perform (r : Represents h z) (op : Op α) :
    Represents (h.perform op).2 (z.perform h.capacity op).2 ∧
      (h.perform op).1 = (z.perform h.capacity op).1 := by
  cases op with
  | push a => exact ⟨r.push a, rfl⟩
  | undo => exact r.undo
  | redo => exact r.redo
  | clear => exact ⟨represents_empty rfl rfl, rfl⟩

/-- A sequence of operations keeps a history and its zipper together, and returns the same on
both. -/
theorem run (r : Represents h z) (ops : List (Op α)) :
    Represents (h.run ops) (z.run h.capacity ops) ∧ h.replies ops = z.replies h.capacity ops := by
  induction ops generalizing h z with
  | nil => exact ⟨r, rfl⟩
  | cons op ops ih =>
    obtain ⟨r', hreply⟩ := r.perform op
    obtain ⟨hrun, hreplies⟩ := ih r'
    -- The zipper keeps to one capacity, which no operation on the history changes.
    rw [perform_capacity] at hrun hreplies
    exact ⟨hrun, by rw [History.replies, Zipper.replies, hreply, hreplies]⟩

end Represents

end Zipper

theorem capacity_run (h : History α) (ops : List (Op α)) : (h.run ops).capacity = h.capacity := by
  induction ops generalizing h with
  | nil => rfl
  | cons op ops ih => rw [run_cons, ih, perform_capacity]

/-- **A history is a bounded zipper.** After every sequence of operations on an empty history that
was asked to hold `c` snapshots, the snapshots, the cursor, what there is to undo and to redo and
everything that was returned are those of the zipper that holds `max c 1` entries; there are no more
snapshots than that; and no position that the next operation or a look at the current snapshot
computes is out of range. -/
theorem run_refines_zipper (c : Nat) (ops : List (Op α)) :
    let h := (withCapacity c).run ops
    let z := Zipper.run (max c 1) {} ops
    h.states = z.toList ∧ h.cursor = z.position ∧ h.current = z.present ∧
      h.canUndo = z.canUndo ∧ h.canRedo = z.canRedo ∧
      (withCapacity c).replies ops = Zipper.replies (max c 1) {} ops ∧
      h.states.length ≤ max c 1 ∧
      (∀ op, Checked.perform h op = some (h.perform op)) ∧ Checked.current h = some h.current := by
  obtain ⟨r, hreplies⟩ := (Zipper.represents_empty (h := withCapacity (α := α) c) rfl rfl).run ops
  have hcapacity : ((withCapacity (α := α) c).run ops).capacity = max c 1 := capacity_run _ _
  refine ⟨r.states, r.cursor, r.current_eq, r.canUndo_eq, r.canRedo_eq, hreplies, ?_, ?_, ?_⟩
  · rw [← hcapacity]
    exact r.length_le
  · exact Checked.perform_eq r.onSnapshot
  · exact Checked.current_eq r.onSnapshot

end History

end SchemaWorkbench
