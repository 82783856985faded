import SchemaWorkbench.Proofs.Session.Commit

/-!
# The working copy and its snapshots

A session keeps its schema twice: as the working copy, and as the snapshot at the cursor of its
history. Every step keeps the two equal. A commit puts the cursor on the snapshot of the new working
copy, and undo and redo take the working copy from the snapshot to which they move. Only clearing
the history leaves a working copy without a snapshot, until the next commit.

## Main definitions

* `Session.StandsAt s c`: the cursor is at `c`, and the snapshot there is the working copy
* `Session.Synced`: the history is empty, or the session stands somewhere

## Main results

* `Session.standsAt_commit`: where a session stands after a commit
* `Session.StandsAt.undo`, `Session.StandsAt.redo`: undo and redo move a session by one snapshot
* `Session.Synced.apply`, `Session.StandsAt.exists_apply`: every edit keeps the two copies equal
* `Session.current_applyAll_start`: they are equal after every sequence of edits
-/

namespace SchemaWorkbench

namespace Session

open History

/-- The cursor is at `c`, and the snapshot there is the working copy. -/
structure StandsAt (s : Session) (c : Nat) : Prop where
  cursor : s.history.cursor = some c
  snapshot : s.history.states[c]? = some s.tables

/-- The history is empty, or its current snapshot is the working copy. -/
def Synced (s : Session) : Prop :=
  (s.history.states = [] ∧ s.history.cursor = none) ∨ ∃ c, s.StandsAt c

variable {s : Session} {c : Nat}

theorem StandsAt.lt (h : s.StandsAt c) : c < s.history.states.length := by
  obtain ⟨hlt, -⟩ := List.getElem?_eq_some_iff.mp h.snapshot
  exact hlt

theorem StandsAt.current (h : s.StandsAt c) : s.history.current = some s.tables := by
  rw [current_of_cursor h.cursor, h.snapshot]

/-- After a commit the session stands on the new snapshot, whatever it was before. -/
theorem standsAt_commit (s : Session) (tables : Schema) :
    (s.commit tables).StandsAt (s.history.upToCursor.rtake (s.history.capacity - 1)).length where
  cursor := push_cursor s.history tables
  snapshot := by simp [commit]

theorem standsAt_start (h : History Schema) : ∃ c, (start h).StandsAt c :=
  ⟨_, standsAt_commit { tables := [], history := h.clear } []⟩

/-! ## Undo and redo -/

/-- Undo moves the session one snapshot back. -/
theorem StandsAt.undo (h : s.StandsAt (c + 1)) :
    s.undo.1 = true ∧ s.undo.2.StandsAt c ∧ s.undo.2.history.states = s.history.states := by
  have hlt : c < s.history.states.length := Nat.lt_of_succ_lt h.lt
  rw [Session.undo, undo_of_cursor h.cursor, List.getElem?_eq_getElem hlt]
  exact ⟨rfl, ⟨rfl, List.getElem?_eq_getElem hlt⟩, rfl⟩

/-- Redo moves the session one snapshot forward, if there is one. -/
theorem StandsAt.redo (h : s.StandsAt c) (hlt : c + 1 < s.history.states.length) :
    s.redo.1 = true ∧ s.redo.2.StandsAt (c + 1) ∧ s.redo.2.history.states = s.history.states := by
  rw [Session.redo, redo_of_lt h.cursor hlt, List.getElem?_eq_getElem hlt]
  exact ⟨rfl, ⟨rfl, List.getElem?_eq_getElem hlt⟩, rfl⟩

theorem undo_of_not_canUndo (hu : s.history.canUndo = false) : s.undo = (false, s) := by
  rw [Session.undo, History.undo_of_not_canUndo hu]
  rfl

theorem redo_of_not_canRedo (hr : s.history.canRedo = false) : s.redo = (false, s) := by
  rw [Session.redo, History.redo_of_not_canRedo hr]
  rfl

theorem StandsAt.exists_undo (h : s.StandsAt c) : ∃ c', s.undo.2.StandsAt c' := by
  cases c with
  | zero =>
    have hu : s.history.canUndo = false := by simp [canUndo_of_cursor h.cursor]
    rw [undo_of_not_canUndo hu]
    exact ⟨0, h⟩
  | succ c => exact ⟨c, h.undo.2.1⟩

theorem StandsAt.exists_redo (h : s.StandsAt c) : ∃ c', s.redo.2.StandsAt c' := by
  by_cases hlt : c + 1 < s.history.states.length
  · exact ⟨c + 1, (h.redo hlt).2.1⟩
  · have hr : s.history.canRedo = false := by simpa [canRedo_of_cursor h.cursor] using hlt
    rw [redo_of_not_canRedo hr]
    exact ⟨c, h⟩

/-! ## Every edit keeps the two copies equal -/

/-- An edit of the schema leaves the session as it is, or the session stands on a new snapshot. -/
theorem apply_change_standsAt {e : Edit} (he : e.isChange) :
    (s.apply e).2 = s ∨ ∃ c, (s.apply e).2.StandsAt c := by
  have h := apply_change (s := s) he
  rw [Commits] at h
  split at h
  · rw [h]
    exact .inr ⟨_, standsAt_commit s _⟩
  · exact .inl h

/-- A session that stands on a snapshot does so after every edit other than clearing. -/
theorem StandsAt.exists_apply (h : s.StandsAt c) {e : Edit} (he : e ≠ .clearHistory) :
    ∃ c', (s.apply e).2.StandsAt c' := by
  rcases e.isChange_or_eq with hchange | rfl | rfl | rfl
  · rcases apply_change_standsAt (s := s) hchange with hself | hstands
    · exact ⟨c, by rwa [hself]⟩
    · exact hstands
  · exact h.exists_undo
  · exact h.exists_redo
  · exact absurd rfl he

/-- **Every edit keeps the two copies equal**, or the history is empty. -/
theorem Synced.apply (h : s.Synced) (e : Edit) : (s.apply e).2.Synced := by
  rcases h with ⟨hstates, hcursor⟩ | ⟨c, h⟩
  · -- With an empty history there is nothing to undo or to redo.
    have hu : s.history.canUndo = false := by simp [canUndo, hcursor]
    have hr : s.history.canRedo = false := by simp [canRedo, hcursor, hstates]
    rcases e.isChange_or_eq with hchange | rfl | rfl | rfl
    · rcases apply_change_standsAt (s := s) hchange with hself | hstands
      · rw [hself]
        exact .inl ⟨hstates, hcursor⟩
      · exact .inr hstands
    · rw [Session.apply, undo_of_not_canUndo hu]
      exact .inl ⟨hstates, hcursor⟩
    · rw [Session.apply, redo_of_not_canRedo hr]
      exact .inl ⟨hstates, hcursor⟩
    · exact .inl ⟨rfl, rfl⟩
  · by_cases he : e = .clearHistory
    · subst he
      exact .inl ⟨rfl, rfl⟩
    · exact .inr (h.exists_apply he)

theorem Synced.applyAll (h : s.Synced) (edits : List Edit) : (s.applyAll edits).Synced := by
  induction edits generalizing s with
  | nil => exact h
  | cons e edits ih => exact ih (h.apply e)

theorem StandsAt.exists_applyAll (h : s.StandsAt c) {edits : List Edit}
    (hclear : .clearHistory ∉ edits) : ∃ c', (s.applyAll edits).StandsAt c' := by
  induction edits generalizing s c with
  | nil => exact ⟨c, h⟩
  | cons e edits ih =>
    rw [List.mem_cons, not_or] at hclear
    obtain ⟨c', h'⟩ := h.exists_apply (Ne.symm hclear.1)
    exact ih h' hclear.2

/-- **Working copy and history never drift apart.** Whatever the history was that a session took
over, after every sequence of edits the history is empty or its current snapshot is the working
copy; and it is empty only if it has been cleared. -/
theorem current_applyAll_start (h : History Schema) (edits : List Edit) :
    let s := (start h).applyAll edits
    (s.history.states = [] ∨ s.history.current = some s.tables) ∧
      (s.history.states = [] → .clearHistory ∈ edits) := by
  obtain ⟨c, hstart⟩ := standsAt_start h
  constructor
  · rcases Synced.applyAll (.inr ⟨c, hstart⟩) edits with ⟨hstates, -⟩ | ⟨c', h'⟩
    · exact .inl hstates
    · exact .inr h'.current
  · -- Without a clearing the session stands on a snapshot, so there is one.
    intro hstates
    by_contra hclear
    obtain ⟨c', h'⟩ := hstart.exists_applyAll hclear
    exact absurd h'.lt (by rw [hstates]; exact Nat.not_lt_zero c')

/-- A history that was cleared after an edit is empty. -/
theorem history_cleared_after_edit :
    let edits : List Edit := [.addTable { name := "a" }, .clearHistory]
    ((start (withCapacity 0)).applyAll edits).history.states = [] ∧ .clearHistory ∈ edits :=
  ⟨rfl, (current_applyAll_start (withCapacity 0) _).2 rfl⟩

end Session

end SchemaWorkbench
