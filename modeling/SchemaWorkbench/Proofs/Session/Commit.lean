import SchemaWorkbench.Proofs.History.Run
import SchemaWorkbench.Session

/-!
# What an edit does to a session

An edit of the schema either commits the working copy that it leaves, exactly once, or leaves the
session as it is, and its outcome tells which. Undo and redo move between snapshots and are not
edits of the schema in this sense, and neither is clearing the history.

## Main definitions

* `Edit.isChange`: the edits of the schema
* `Outcome.isSuccess`: the outcomes of an edit that did something
* `Session.Succeeds`: every edit of a sequence is an edit of the schema and does something

## Main results

* `Session.apply_change`: an edit of the schema commits the working copy that it leaves, or leaves
  the session as it is
* `Session.history_apply`: an edit performs at most one operation on the history
-/

namespace SchemaWorkbench

/-- The edit is one of the schema: it neither moves between snapshots nor clears the history. -/
def Edit.isChange : Edit → Bool
  | .undo | .redo | .clearHistory => false
  | _ => true

/-- The other edits are undo, redo and the clearing of the history. -/
theorem Edit.isChange_or_eq (e : Edit) :
    e.isChange ∨ e = .undo ∨ e = .redo ∨ e = .clearHistory := by
  cases e <;> simp [isChange]

/-- The outcome is that of an edit that did something. -/
def Outcome.isSuccess : Outcome → Bool
  | .line .ignored | .appended 0 | .moved false | .failed _ => false
  | _ => true

namespace Session

variable {s : Session}

/-- The outcome tells whether the session committed the working copy that it has now, or stayed as
it was. -/
def Commits (s : Session) (r : Outcome × Session) : Prop :=
  r.2 = if r.1.isSuccess then s.commit r.2.tables else s

theorem commits_commit {o : Outcome} (ho : o.isSuccess) (tables : Schema) :
    s.Commits (o, s.commit tables) := by
  rw [Commits, if_pos ho]
  rfl

theorem commits_self {o : Outcome} (ho : o.isSuccess = false) : s.Commits (o, s) := by
  rw [Commits, if_neg (by simp [ho])]

theorem commits_append (text : String) : s.Commits (s.apply (.append text)) := by
  rw [apply, append]
  dsimp only
  split
  · rename_i hparse
    exact commits_self (by rw [hparse]; rfl)
  · rename_i hparse
    refine commits_commit ?_ _
    cases hp : parse text with
    | nil => exact absurd hp hparse
    | cons t ts => rfl

theorem commits_line (text : String) : s.Commits (s.apply (.line text)) := by
  rw [apply, applyLine]
  split
  · exact commits_commit rfl _
  · split
    · exact commits_commit rfl _
    · exact commits_self rfl

/-- A change of the first table of a name is committed, or there is no table of that name. -/
theorem editTable_cases (s : Session) (name : String) (f : Table → Table) :
    (∃ tables, s.editTable name f = .ok (s.commit tables)) ∨
      s.editTable name f = .error (.noTable name) := by
  rw [editTable]
  split
  · exact .inl ⟨_, rfl⟩
  · exact .inr rfl

theorem commits_editTable {o : Outcome} (ho : o.isSuccess) (name : String) (f : Table → Table) :
    s.Commits (s.settle ((o, ·) <$> s.editTable name f)) := by
  rcases editTable_cases s name f with ⟨tables, h⟩ | h
  · rw [h]
    exact commits_commit ho tables
  · rw [h]
    exact commits_self rfl

theorem commits_removeTable (name : String) : s.Commits (s.apply (.removeTable name)) := by
  rw [apply, removeTable]
  split
  · exact commits_commit rfl _
  · exact commits_self rfl

theorem commits_removeColumn (table column : String) :
    s.Commits (s.apply (.removeColumn table column)) := by
  rw [apply, removeColumn]
  split
  · exact commits_self rfl
  · split
    · exact commits_self rfl
    · rw [← comp_map]
      exact commits_editTable rfl table _

/-- **An edit of the schema commits the working copy that it leaves, or leaves the session as it
is**, and its outcome tells which. -/
theorem apply_change {e : Edit} (he : e.isChange) : s.Commits (s.apply e) := by
  cases e with
  | load tables => exact commits_commit rfl tables
  | append text => exact commits_append text
  | line text => exact commits_line text
  | addTable t => exact commits_commit rfl _
  | addColumn table c => exact commits_editTable rfl table _
  | addTemplate table t => exact commits_editTable rfl table _
  | addRelation r => exact commits_editTable rfl r.sourceTable _
  | removeTable name => exact commits_removeTable name
  | removeColumn table c => exact commits_removeColumn table c
  | undo | redo | clearHistory => contradiction

/-- A successful edit of the schema commits the working copy that it leaves. -/
theorem apply_of_isSuccess {e : Edit} (he : e.isChange) (ho : (s.apply e).1.isSuccess) :
    (s.apply e).2 = s.commit (s.apply e).2.tables := by
  have h := apply_change (s := s) he
  rwa [Commits, if_pos ho] at h

/-! ## What happens to the history -/

/-- Undo and redo leave a session with the history that moved. -/
theorem history_moved (s : Session) (m : Option Schema × History Schema) :
    (s.moved m).2.history = m.2 := by
  obtain ⟨_ | tables, h⟩ := m <;> rfl

/-- An edit performs at most one operation on the history. -/
theorem history_apply (s : Session) (e : Edit) :
    (s.apply e).2.history = s.history ∨ ∃ op, (s.apply e).2.history = (s.history.perform op).2 := by
  rcases e.isChange_or_eq with hchange | rfl | rfl | rfl
  · have h := apply_change (s := s) hchange
    rw [Commits] at h
    split at h <;> rw [h]
    · exact .inr ⟨.push _, rfl⟩
    · exact .inl rfl
  · exact .inr ⟨.undo, history_moved s _⟩
  · exact .inr ⟨.redo, history_moved s _⟩
  · exact .inr ⟨.clear, rfl⟩

/-! ## Sequences of edits -/

/-- Every edit of the sequence is an edit of the schema and does something. -/
def Succeeds (s : Session) : List Edit → Prop
  | [] => True
  | e :: edits => e.isChange ∧ (s.apply e).1.isSuccess ∧ (s.apply e).2.Succeeds edits

/-- What a sequence of edits returns, one by one. -/
def outcomes (s : Session) : List Edit → List Outcome
  | [] => []
  | e :: edits => (s.apply e).1 :: (s.apply e).2.outcomes edits

@[simp] theorem applyAll_nil (s : Session) : s.applyAll [] = s := rfl

@[simp] theorem applyAll_cons (s : Session) (e : Edit) (edits : List Edit) :
    s.applyAll (e :: edits) = (s.apply e).2.applyAll edits := rfl

theorem applyAll_append (s : Session) (edits edits' : List Edit) :
    s.applyAll (edits ++ edits') = (s.applyAll edits).applyAll edits' :=
  List.foldl_append

theorem succeeds_concat {edits : List Edit} {e : Edit} :
    s.Succeeds (edits ++ [e]) ↔
      s.Succeeds edits ∧ e.isChange ∧ ((s.applyAll edits).apply e).1.isSuccess := by
  induction edits generalizing s with
  | nil => simp [Succeeds]
  | cons e' edits ih => simp [Succeeds, ih, and_assoc]

end Session

end SchemaWorkbench
