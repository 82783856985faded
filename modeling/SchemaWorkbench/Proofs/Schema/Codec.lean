import SchemaWorkbench.Schema.Codec

/-!
# The faithful form is read back

Reading the JSON value that was written for a column, a relation or a table gives it back, whatever
its texts are: empty and blank texts are texts like any other, a text that is missing is written as
null, and a table without relations is written without a member for them.

## Main results

* `asList_map`: a list reads back when its items do
* `Column.ofJson_toJson`, `Relation.ofJson_toJson`, `Table.ofJson_toJson`, `Schema.ofJson_toJson`:
  columns, relations, tables and schemas read back
-/

namespace SchemaWorkbench

open Json

/-- A list reads back when its items do. -/
theorem Json.asList_map {α : Type} {item : Json → Except ShapeError α} {write : α → Json}
    (h : ∀ a, item (write a) = .ok a) (as : List α) :
    asList item (.arr (as.map write)) = .ok as := by
  show (as.map write).mapM item = .ok as
  induction as with
  | nil => rfl
  | cons a as ih =>
    rw [List.map_cons, List.mapM_cons, h, ih]
    rfl

/-- The value of a member is read when the member is there. -/
theorem Json.memberAt?_of_lookup? {α : Type} {members : List (String × Json)} {key : String}
    {value : Json → Except ShapeError α} {v : Json} {a : α} (hv : lookup? members key = some v)
    (ha : value v = .ok a) : memberAt? members key value = .ok (some a) := by
  rw [memberAt?, hv]
  show some <$> value v = .ok (some a)
  rw [ha]
  rfl

theorem Column.ofJson_toJson (c : Column) : ofJson c.toJson = .ok c := by
  obtain ⟨_, _, _, _, _, _, defaultValue, reference⟩ := c
  -- A text that is missing is null, which is read as none.
  cases defaultValue <;> cases reference <;> rfl

theorem Cardinality.ofJson_toJson (c : Cardinality) : ofJson c.toJson = .ok c := by
  cases c <;> rfl

theorem Relation.ofJson_toJson (r : Relation) : ofJson r.toJson = .ok r := by
  obtain ⟨_, _, _, _, c⟩ := r
  -- The keys are literals: once the cardinality is known, every member is found by evaluation.
  cases c <;> rfl

theorem Table.ofJson_toJson (t : Table) : ofJson t.toJson = .ok t := by
  obtain ⟨name, columns, relations⟩ := t
  have hcolumns := asList_map Column.ofJson_toJson columns
  have hrelations := asList_map Relation.ofJson_toJson relations
  cases relations with
  | nil =>
    -- The member for the relations is missing.
    show ofMembers _ = _
    rw [ofMembers, memberAt?_of_lookup? rfl hcolumns]
    rfl
  | cons r rs =>
    show ofMembers _ = _
    rw [ofMembers, memberAt?_of_lookup? rfl hcolumns, memberAt?_of_lookup? rfl hrelations]
    rfl

theorem Schema.ofJson_toJson (s : Schema) : ofJson s.toJson = .ok s :=
  asList_map Table.ofJson_toJson s

end SchemaWorkbench
