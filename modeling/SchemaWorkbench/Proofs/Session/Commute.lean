import SchemaWorkbench.Proofs.Session.Failure

/-!
# Edits of different tables commute

Each edit by name changes one table, the first one of its name, or finds none. All it returns it
reads off that table, and what it puts in its place has the same name, if it puts anything there.
So it neither sees nor changes what an edit of another name sees: that one finds the same table,
whether or not a table before it went.

## Main definitions

* `Schema.editFirst`: a schema with its first table of a name edited
* `Edit.target?`: the name of the table that an edit changes
* `Edit.onTable`: what an edit makes of that table

## Main results

* `Schema.editFirst_comm`: edits of the first tables of two names commute
* `Session.apply_eq_editFirst`: an edit by name edits the first table of the name
* `Session.apply_comm`: edits of different tables commute
-/

namespace SchemaWorkbench

/-! ## The first table of a name -/

namespace Schema

variable {s : Schema} {name name' : String} {f g : Table → Outcome × Schema}

/-- What an edit returns and leaves of a schema, if it makes `f` of the first table of a name; it
fails if there is no such table. -/
def editFirst (name : String) (f : Table → Outcome × Schema) : Schema → Outcome × Schema
  | [] => (.failed (.noTable name), [])
  | t :: ts =>
    if t.name = name then
      ((f t).1, (f t).2 ++ ts)
    else
      ((editFirst name f ts).1, t :: (editFirst name f ts).2)

theorem editFirst_of_name_eq {t : Table} (ht : t.name = name) (ts : Schema) :
    editFirst name f (t :: ts) = ((f t).1, (f t).2 ++ ts) := if_pos ht

theorem editFirst_of_name_ne {t : Table} (ht : t.name ≠ name) (ts : Schema) :
    editFirst name f (t :: ts) = ((editFirst name f ts).1, t :: (editFirst name f ts).2) :=
  if_neg ht

/-- Tables of other names are passed over. -/
theorem editFirst_append {ts : Schema} (hts : ∀ t ∈ ts, t.name ≠ name) (us : Schema) :
    editFirst name f (ts ++ us) = ((editFirst name f us).1, ts ++ (editFirst name f us).2) := by
  induction ts with
  | nil => rfl
  | cons t ts ih =>
    rw [List.forall_mem_cons] at hts
    rw [List.cons_append, editFirst_of_name_ne hts.1, ih hts.2, List.cons_append]

/-- The edit leaves nothing in the place of a table but tables of its name. -/
def KeepsName (f : Table → Outcome × Schema) : Prop :=
  ∀ t, ∀ u ∈ (f t).2, u.name = t.name

/-- **Edits of the first tables of two names commute**, and neither changes what the other one
returns. -/
theorem editFirst_comm (hne : name ≠ name') (hf : KeepsName f) (hg : KeepsName g) (s : Schema) :
    ((s.editFirst name f).2.editFirst name' g).2 = ((s.editFirst name' g).2.editFirst name f).2 ∧
      ((s.editFirst name f).2.editFirst name' g).1 = (s.editFirst name' g).1 ∧
      ((s.editFirst name' g).2.editFirst name f).1 = (s.editFirst name f).1 := by
  -- What is left of a table of one name is passed over by the edit of the other name.
  have hpass {name name' : String} (hne : name ≠ name') {f : Table → Outcome × Schema}
      (hf : KeepsName f) {t : Table} (ht : t.name = name) : ∀ u ∈ (f t).2, u.name ≠ name' :=
    fun u hu h => hne (by rw [← ht, ← hf t u hu, h])
  induction s with
  | nil => exact ⟨rfl, rfl, rfl⟩
  | cons t ts ih =>
    by_cases ht : t.name = name
    · have ht' : t.name ≠ name' := ht ▸ hne
      rw [editFirst_of_name_eq ht, editFirst_of_name_ne ht']
      simp only [editFirst_append (hpass hne hf ht), editFirst_of_name_eq ht, and_self]
    · by_cases ht' : t.name = name'
      · rw [editFirst_of_name_ne ht, editFirst_of_name_eq ht']
        simp only [editFirst_append (hpass hne.symm hg ht'), editFirst_of_name_eq ht', and_self]
      · rw [editFirst_of_name_ne ht, editFirst_of_name_ne ht']
        simp only [editFirst_of_name_ne ht, editFirst_of_name_ne ht', List.cons.injEq, true_and]
        exact ih

/-! ### The operations on schemas -/

theorem editFirst_eq_updateTable (name : String) (o : Outcome) (h : Table → Table) (s : Schema) :
    s.editFirst name (fun t => (o, [h t])) =
      match s.updateTable name h with
      | some s' => (o, s')
      | none => (.failed (.noTable name), s) := by
  induction s with
  | nil => rfl
  | cons t ts ih =>
    by_cases ht : t.name = name
    · rw [editFirst_of_name_eq ht, updateTable, if_pos ht]
      rfl
    · rw [editFirst_of_name_ne ht, ih, updateTable, if_neg ht]
      cases updateTable name h ts <;> rfl

theorem editFirst_eq_extractFirst (name : String) (s : Schema) :
    s.editFirst name (fun t => (.tableRemoved t, [])) =
      match extractFirst? (·.name == name) s with
      | some (t, s') => (.tableRemoved t, s')
      | none => (.failed (.noTable name), s) := by
  induction s with
  | nil => rfl
  | cons t ts ih =>
    by_cases ht : t.name = name
    · rw [editFirst_of_name_eq ht, extractFirst?, if_pos (by simpa using ht)]
      rfl
    · rw [editFirst_of_name_ne ht, ih, extractFirst?, if_neg (by simpa using ht)]
      cases extractFirst? (·.name == name) ts <;> rfl

theorem editFirst_of_table?_eq_none (h : table? name s = none) :
    s.editFirst name f = (.failed (.noTable name), s) := by
  have hpass := editFirst_append (f := f) (table?_eq_none_iff.mp h) []
  rw [List.append_nil] at hpass
  rw [hpass, editFirst, List.append_nil]

/-- Where there is a table of the name, the edit takes place between the others. -/
theorem exists_editFirst_eq {t : Table} (h : table? name s = some t) :
    ∃ before after, s = before ++ t :: after ∧
      ∀ f, s.editFirst name f = ((f t).1, before ++ ((f t).2 ++ after)) := by
  obtain ⟨before, after, rfl, hbefore, ht⟩ := table?_eq_some_iff.mp h
  exact ⟨before, after, rfl, fun f => by rw [editFirst_append hbefore, editFirst_of_name_eq ht]⟩

end Schema

/-! ## Edits by name -/

namespace Edit

/-- The name of the table that an edit changes, if it is an edit by name. -/
def target? : Edit → Option String
  | .removeColumn table _ => some table
  | e => e.tableName?

/-- What an edit by name returns of the table that it changes, and what it leaves in its place. -/
def onTable : Edit → Table → Outcome × Schema
  | .addColumn _ c, t => (.done, [t.addColumn c])
  | .addTemplate _ template, t => (.done, [t.addColumn template.column])
  | .addRelation r, t => (.done, [t.addRelation r])
  | .removeTable _, t => (.tableRemoved t, [])
  | .removeColumn table column, t =>
    match extractFirst? (·.name == column) t.columns with
    | some (c, columns) => (.columnRemoved c, [{ t with columns }])
    | none => (.failed (.noColumn table column), [t])
  | _, t => (.done, [t])

theorem keepsName_onTable {e : Edit} {name : String} (he : e.target? = some name) :
    Schema.KeepsName e.onTable := by
  intro t u hu
  cases e with
  | addColumn | addTemplate | addRelation =>
    rw [onTable, List.mem_singleton] at hu
    rw [hu]
    rfl
  | removeTable name => contradiction
  | removeColumn table column =>
    rw [onTable] at hu
    split at hu <;> rw [List.mem_singleton.mp hu]
  | load | append | line | addTable | undo | redo | clearHistory => contradiction

end Edit

namespace Session

variable {s : Session} {name : String}

theorem settle_editTable (s : Session) (name : String) (o : Outcome) (h : Table → Table) :
    Prod.map id tables (s.settle ((o, ·) <$> s.editTable name h)) =
      s.tables.editFirst name fun t => (o, [h t]) := by
  rw [editTable, Schema.editFirst_eq_updateTable]
  cases s.tables.updateTable name h <;> rfl

/-- Removing a column looks at its table first, and changes it then. -/
theorem apply_removeColumn (s : Session) (name column : String) :
    Prod.map id tables (s.apply (.removeColumn name column)) =
      s.tables.editFirst name (Edit.removeColumn name column).onTable := by
  rw [apply, removeColumn]
  cases ht : s.tables.table? name with
  | none =>
    rw [Schema.editFirst_of_table?_eq_none ht]
    rfl
  | some t =>
    obtain ⟨before, after, hs, hedit⟩ := Schema.exists_editFirst_eq ht
    rw [hedit, Edit.onTable]
    dsimp only
    cases extractFirst? (·.name == column) t.columns with
    | none => exact congrArg _ hs
    | some r =>
      dsimp only
      rw [← comp_map]
      exact (s.settle_editTable name _ _).trans (hedit _)

/-- **An edit by name edits the first table of the name.** -/
theorem apply_eq_editFirst (s : Session) {e : Edit} {name : String} (he : e.target? = some name) :
    Prod.map id tables (s.apply e) = s.tables.editFirst name e.onTable := by
  cases e with
  | addColumn | addTemplate | addRelation =>
    cases he
    exact s.settle_editTable _ .done _
  | removeTable name =>
    cases he
    rw [apply, removeTable]
    refine Eq.trans ?_ (Schema.editFirst_eq_extractFirst name s.tables).symm
    cases extractFirst? (·.name == name) s.tables <;> rfl
  | removeColumn table column =>
    cases he
    exact s.apply_removeColumn _ column
  | load | append | line | addTable | undo | redo | clearHistory => contradiction

theorem outcome_apply_eq (s : Session) {e : Edit} {name : String} (he : e.target? = some name) :
    (s.apply e).1 = (s.tables.editFirst name e.onTable).1 :=
  congrArg Prod.fst (s.apply_eq_editFirst he)

theorem tables_apply_eq (s : Session) {e : Edit} {name : String} (he : e.target? = some name) :
    (s.apply e).2.tables = (s.tables.editFirst name e.onTable).2 :=
  congrArg Prod.snd (s.apply_eq_editFirst he)

/-- **Edits of different tables commute.** In every session, two edits by name of different tables,
made in either order, leave the same working copy, and each of them returns in one order what it
returns in the other, be it a value or the cause of a failure. -/
theorem apply_comm (s : Session) {e e' : Edit} {name name' : String} (he : e.target? = some name)
    (he' : e'.target? = some name') (hne : name ≠ name') :
    ((s.apply e).2.apply e').2.tables = ((s.apply e').2.apply e).2.tables ∧
      ((s.apply e).2.apply e').1 = (s.apply e').1 ∧
      ((s.apply e').2.apply e).1 = (s.apply e).1 := by
  simp only [outcome_apply_eq _ he, outcome_apply_eq _ he', tables_apply_eq _ he,
    tables_apply_eq _ he']
  exact Schema.editFirst_comm hne (Edit.keepsName_onTable he) (Edit.keepsName_onTable he') s.tables

/-- Of two tables of one name the first one goes. A table of another name, which stands behind it,
loses a column or gets one more. -/
theorem remove_table_and_column :
    let s := (start History.empty).applyAll
      [.addTable { name := "a" }, .addTable { name := "b", columns := [Template.id.column] },
        .addTable { name := "a", columns := [Template.timestamp.column] }]
    let e : Edit := .removeTable "a"
    let e' : Edit := .removeColumn "b" "id"
    let e'' : Edit := .addTemplate "b" .timestamp
    e.target? = some "a" ∧ e'.target? = some "b" ∧ e''.target? = some "b" ∧ "a" ≠ "b" ∧
      ((s.apply e').2.apply e).2.tables =
        [{ name := "b" }, { name := "a", columns := [Template.timestamp.column] }] ∧
      ((s.apply e).2.apply e').2.tables = ((s.apply e').2.apply e).2.tables ∧
      ((s.apply e).2.apply e').1 = .columnRemoved Template.id.column ∧
      ((s.apply e'').2.apply e).2.tables =
        [{ name := "b", columns := [Template.id.column, Template.timestamp.column] },
          { name := "a", columns := [Template.timestamp.column] }] ∧
      ((s.apply e).2.apply e'').2.tables = ((s.apply e'').2.apply e).2.tables := by
  intro s e e' e''
  have he : e.target? = some "a" := rfl
  have he' : e'.target? = some "b" := rfl
  have he'' : e''.target? = some "b" := rfl
  obtain ⟨htables, houtcome, -⟩ := s.apply_comm he he' (by decide)
  obtain ⟨htables', -, -⟩ := s.apply_comm he he'' (by decide)
  exact ⟨he, he', he'', by decide, by decide, htables, houtcome.trans (by decide), by decide,
    htables'⟩

end Session

end SchemaWorkbench
