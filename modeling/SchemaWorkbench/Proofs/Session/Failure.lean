import SchemaWorkbench.Proofs.Session.Commit

/-!
# Edits that fail

An edit that fails or finds nothing to do leaves no trace: the working copy, the snapshots, the
cursor and what the observers were told are as before. For the edits of the schema this holds in
every state. Undo and redo could in principle tell the observers of a move to a snapshot that is not
there; that this never happens is an invariant of the sessions that can be reached, whatever is done
to the history directly.

An edit by name fails exactly when there is no table of the name; where several tables have it, only
the columns of the first one count.

## Main definitions

* `Session.Reachable`: what edits and direct operations on the history make of a started session
* `Edit.tableName?`: the table that an edit needs

## Main results

* `Session.Reachable.onSnapshot`: the cursor of a session that can be reached is on a snapshot
* `Session.Reachable.apply_of_not_isSuccess`: an edit without success leaves the session as it is
* `Session.apply_eq_failed_iff`, `Session.removeColumn_eq_error_iff`: when an edit by name fails
* `Session.failed_edits_leave_no_trace`: both together
-/

namespace SchemaWorkbench

/-! ## Looking for names -/

namespace Schema

variable {s : Schema} {name : String}

theorem updateTable_eq_none_iff {f : Table → Table} :
    s.updateTable name f = none ↔ ∀ t ∈ s, t.name ≠ name := by
  induction s with
  | nil => simp [updateTable]
  | cons t ts ih =>
    by_cases ht : t.name = name
    · simp [updateTable, ht]
    · simp [updateTable, ht, ih]

theorem table?_eq_none_iff : s.table? name = none ↔ ∀ t ∈ s, t.name ≠ name := by
  simp [table?]

/-- The first table of a name has it, and no table before it does. -/
theorem table?_eq_some_iff {t : Table} : s.table? name = some t ↔
    ∃ before after, s = before ++ t :: after ∧ (∀ u ∈ before, u.name ≠ name) ∧ t.name = name := by
  rw [table?, List.find?_eq_some_iff_append]
  constructor
  · rintro ⟨ht, before, after, rfl, hbefore⟩
    exact ⟨before, after, rfl, by simpa using hbefore, by simpa using ht⟩
  · rintro ⟨before, after, rfl, hbefore, ht⟩
    exact ⟨by simpa using ht, before, after, rfl, by simpa using hbefore⟩

end Schema

theorem extractFirst?_eq_none_iff {α : Type} {p : α → Bool} {as : List α} :
    extractFirst? p as = none ↔ ∀ a ∈ as, p a = false := by
  induction as with
  | nil => simp [extractFirst?]
  | cons a as ih =>
    cases h : p a <;> simp [extractFirst?, h, ih]

/-- The table that an edit needs, if that is all it needs. -/
def Edit.tableName? : Edit → Option String
  | .addColumn table _ => some table
  | .addTemplate table _ => some table
  | .addRelation r => some r.sourceTable
  | .removeTable name => some name
  | _ => none

theorem Outcome.isSuccess_moved (success : Bool) : (moved success).isSuccess = success := by
  cases success <;> rfl

namespace Session

open History

/-! ## The sessions that can be reached -/

/-- The session can be reached: it was started on a history, was edited, and the history was perhaps
observed or changed directly. -/
inductive Reachable : Session → Prop
  | start (h : History Schema) : Reachable (start h)
  | apply {s : Session} (hs : Reachable s) (e : Edit) : Reachable (s.apply e).2
  | subscribe {s : Session} (hs : Reachable s) :
      Reachable { s with history := s.history.subscribe }
  | perform {s : Session} (hs : Reachable s) (op : Op Schema) :
      Reachable { s with history := (s.history.perform op).2 }

variable {s : Session}

/-- The cursor of a session that can be reached is on a snapshot, if there is one. -/
theorem Reachable.onSnapshot (hs : s.Reachable) : s.history.OnSnapshot := by
  induction hs with
  | start h => exact (onSnapshot_clear h).perform (.push [])
  | @apply s _ e ih =>
    rcases s.history_apply e with h | ⟨op, h⟩
    · rwa [h]
    · rw [h]
      exact ih.perform op
  | subscribe _ ih => exact ih
  | perform _ op ih => exact ih.perform op

theorem Reachable.applyAll (hs : s.Reachable) (edits : List Edit) :
    (s.applyAll edits).Reachable := by
  induction edits generalizing s with
  | nil => exact hs
  | cons e edits ih => exact ih (hs.apply e)

/-! ## Without success nothing changes -/

/-- A move that does not succeed leaves the session as it is, if it leaves the history as it is. -/
theorem moved_of_not_success {m : Option Schema × History Schema}
    (hm : m.1 = none → m.2 = s.history) (hfailed : (s.moved m).1 = false) : (s.moved m).2 = s := by
  obtain ⟨_ | tables, history⟩ := m
  · rw [moved, show history = s.history from hm rfl]
  · contradiction

/-- **An edit without success leaves the session as it is.** -/
theorem Reachable.apply_of_not_isSuccess (hs : s.Reachable) {e : Edit}
    (hfailed : (s.apply e).1.isSuccess = false) : (s.apply e).2 = s := by
  rcases e.isChange_or_eq with hchange | rfl | rfl | rfl
  · have h := apply_change (s := s) hchange
    rwa [Commits, if_neg (by simp [hfailed])] at h
  · exact moved_of_not_success hs.onSnapshot.undo_of_eq_none
      (Outcome.isSuccess_moved s.undo.1 ▸ hfailed)
  · exact moved_of_not_success redo_of_eq_none (Outcome.isSuccess_moved s.redo.1 ▸ hfailed)
  · contradiction

/-! ## When an edit by name fails -/

/-- The outcome of an edit that can fail is a failure when the edit fails. -/
theorem settle_eq_failed_iff {α : Type} {r : Except EditError α} {f : α → Outcome × Session}
    (hf : ∀ a, (f a).1.isSuccess) {cause : EditError} :
    (s.settle (f <$> r)).1 = .failed cause ↔ r = .error cause := by
  cases r with
  | error e => simp [settle]
  | ok a =>
    have hne : (f a).1 ≠ .failed cause := fun h => by simpa [h, Outcome.isSuccess] using hf a
    simpa [settle] using hne

section

variable {cause : EditError} {table column : String}

theorem editTable_eq_error_iff {f : Table → Table} : s.editTable table f = .error cause ↔
    cause = .noTable table ∧ ∀ t ∈ s.tables, t.name ≠ table := by
  rw [editTable, ← Schema.updateTable_eq_none_iff (f := f)]
  cases s.tables.updateTable table f <;> simp [eq_comm]

theorem removeTable_eq_error_iff : s.removeTable table = .error cause ↔
    cause = .noTable table ∧ ∀ t ∈ s.tables, t.name ≠ table := by
  have hnone : extractFirst? (·.name == table) s.tables = none ↔
      ∀ t ∈ s.tables, t.name ≠ table := by
    simp [extractFirst?_eq_none_iff]
  rw [removeTable, ← hnone]
  cases extractFirst? (·.name == table) s.tables <;> simp [eq_comm]

/-- A column is not removed when there is no table of the name, or when the first table of the name
has no column of the other name. -/
theorem removeColumn_eq_error_iff : s.removeColumn table column = .error cause ↔
    (cause = .noTable table ∧ ∀ t ∈ s.tables, t.name ≠ table) ∨
      cause = .noColumn table column ∧ ∃ before t after, s.tables = before ++ t :: after ∧
        (∀ u ∈ before, u.name ≠ table) ∧ t.name = table ∧ ∀ c ∈ t.columns, c.name ≠ column := by
  have hfirst : (∃ before t after, s.tables = before ++ t :: after ∧
      (∀ u ∈ before, u.name ≠ table) ∧ t.name = table ∧ ∀ c ∈ t.columns, c.name ≠ column) ↔
      ∃ t, s.tables.table? table = some t ∧ ∀ c ∈ t.columns, c.name ≠ column := by
    simp only [Schema.table?_eq_some_iff]
    constructor
    · rintro ⟨before, t, after, hs, hbefore, ht, hc⟩
      exact ⟨t, ⟨before, after, hs, hbefore, ht⟩, hc⟩
    · rintro ⟨t, ⟨before, after, hs, hbefore, ht⟩, hc⟩
      exact ⟨before, t, after, hs, hbefore, ht, hc⟩
  rw [hfirst, ← Schema.table?_eq_none_iff, removeColumn]
  cases ht : s.tables.table? table with
  | none => simp [eq_comm]
  | some t =>
    -- The table is there, so that a change of it does not fail.
    have hedit (f : Table → Table) : ∃ tables, s.editTable table f = .ok (s.commit tables) := by
      refine (s.editTable_cases table f).resolve_right fun h => ?_
      have hnone := Schema.table?_eq_none_iff.mpr (editTable_eq_error_iff.mp h).2
      simp [ht] at hnone
    have hcolumn : extractFirst? (·.name == column) t.columns = none ↔
        ∀ c ∈ t.columns, c.name ≠ column := by
      simp [extractFirst?_eq_none_iff]
    simp only [Option.some.injEq, exists_eq_left', ← hcolumn, reduceCtorEq, and_false, false_or]
    cases extractFirst? (·.name == column) t.columns with
    | none => simp [eq_comm]
    | some r =>
      obtain ⟨tables, hok⟩ := hedit fun t => { t with columns := r.2 }
      simp [hok]

/-- An edit that needs a table and nothing else fails when there is no table of the name. -/
theorem apply_eq_failed_iff {e : Edit} (he : e.tableName? = some table) :
    (s.apply e).1 = .failed cause ↔ cause = .noTable table ∧ ∀ t ∈ s.tables, t.name ≠ table := by
  cases e with
  | addColumn name c =>
    cases he
    exact (settle_eq_failed_iff fun _ => rfl).trans editTable_eq_error_iff
  | addTemplate name t =>
    cases he
    exact (settle_eq_failed_iff fun _ => rfl).trans editTable_eq_error_iff
  | addRelation r =>
    cases he
    exact (settle_eq_failed_iff fun _ => rfl).trans editTable_eq_error_iff
  | removeTable name =>
    cases he
    exact (settle_eq_failed_iff fun _ => rfl).trans removeTable_eq_error_iff
  | load | append | line | addTable | removeColumn | undo | redo | clearHistory => contradiction

end

/-- **Failed edits leave no trace.** In a session that can be reached, an edit that fails, adds
nothing or does not move leaves the whole session as it is: the working copy, the snapshots, the
cursor and with it the flags, and what the observers were told. An edit that needs a table fails
exactly when there is no table of the name, and removing a column also when the first table of the
name has no column of the other one. -/
theorem failed_edits_leave_no_trace (hs : s.Reachable) :
    (∀ e, (s.apply e).1.isSuccess = false → (s.apply e).2 = s) ∧
      (∀ e name cause, e.tableName? = some name →
        ((s.apply e).1 = .failed cause ↔
          cause = .noTable name ∧ ∀ t ∈ s.tables, t.name ≠ name)) ∧
      ∀ table column cause, (s.apply (.removeColumn table column)).1 = .failed cause ↔
        (cause = .noTable table ∧ ∀ t ∈ s.tables, t.name ≠ table) ∨
          cause = .noColumn table column ∧ ∃ before t after, s.tables = before ++ t :: after ∧
            (∀ u ∈ before, u.name ≠ table) ∧ t.name = table ∧
            ∀ c ∈ t.columns, c.name ≠ column := by
  refine ⟨fun e => hs.apply_of_not_isSuccess, fun e name cause => apply_eq_failed_iff, ?_⟩
  intro table column cause
  exact (settle_eq_failed_iff fun _ => rfl).trans removeColumn_eq_error_iff

/-- Of two tables of one name only the second has the column: it is not removed, and what was undone
before can still be redone. -/
theorem remove_column_of_second_table :
    let s := (start (withCapacity 3).subscribe).applyAll
      [.addTable { name := "a" }, .addTable { name := "a", columns := [Template.id.column] },
        .addTable { name := "b" }, .undo]
    s.Reachable ∧ s.history.flags = ⟨true, true⟩ ∧
      (s.apply (.removeColumn "a" "id")).1 = .failed (.noColumn "a" "id") ∧
      (s.apply (.removeColumn "a" "id")).2 = s := by
  intro s
  have hs : s.Reachable := (Reachable.start _).applyAll _
  exact ⟨hs, rfl, rfl, (failed_edits_leave_no_trace hs).1 _ rfl⟩

end Session

end SchemaWorkbench
