import Mathlib.Data.List.Forall2
import SchemaWorkbench.Interchange.Import

/-!
# What import accepts

The importer walks over tables and columns and stops at the first that is broken. Without its
errors it is a relation between values and what they describe, which holds part by part: a document
is read exactly when it has tables and each of its tables is read, whatever the indices are that an
error would have carried.

## Main definitions

* `Nonblank s`: a character other than whitespace occurs in `s`
* `Import.Describes v t`: the value `v` describes the table `t`

## Main results

* `Import.text?_eq_some_iff`, `Import.list?_eq_some_iff`: the texts and the lists that count
* `Import.column?_eq_some_iff`, `Import.columns_eq_ok_iff`, `Import.relations_eq_ok_iff`,
  `Import.table_eq_ok_iff`, `Import.tables_eq_ok_iff`: columns, relations and tables are read part
  by part
* `Import.document_eq_ok_iff`: the documents that are accepted, and what they are read as
-/

namespace SchemaWorkbench

open Json

/-- A character other than whitespace occurs in the string. -/
def Nonblank (s : String) : Prop := ∃ c ∈ s.toList, ¬ Text.isWhitespace c

theorem nonblank_iff {s : String} : Nonblank s ↔ isBlank s = false := by
  simp [Nonblank, isBlank, Text.isBlank]

instance : DecidablePred Nonblank := fun _ => decidable_of_iff _ nonblank_iff.symm

section Except

variable {ε α β : Type} {x : Except ε α} {b : β}

/-- A computation of two steps succeeds when both of them do. -/
theorem bind_eq_ok_iff {f : α → Except ε β} :
    (x >>= f) = .ok b ↔ ∃ a, x = .ok a ∧ f a = .ok b := by
  cases x <;> simp [bind, Except.bind]

theorem map_eq_ok_iff {f : α → β} : x.map f = .ok b ↔ ∃ a, x = .ok a ∧ f a = b := by
  cases x <;> simp [Except.map]

theorem mapError_eq_ok_iff {ε' : Type} {f : ε → ε'} {a : α} {x : Except ε α} :
    x.mapError f = .ok a ↔ x = .ok a := by
  cases x <;> simp [Except.mapError]

/-- A list is read when its items are, one by one. -/
theorem mapM_eq_ok_iff {f : α → Except ε β} {as : List α} {bs : List β} :
    as.mapM f = .ok bs ↔ List.Forall₂ (fun a b => f a = .ok b) as bs := by
  induction as generalizing bs with
  | nil => simp [pure, Except.pure, eq_comm]
  | cons a as ih =>
    rw [List.mapM_cons, List.forall₂_cons_left_iff, bind_eq_ok_iff]
    constructor
    · rintro ⟨b, hb, h⟩
      obtain ⟨rest, hrest, h⟩ := bind_eq_ok_iff.mp h
      cases h
      exact ⟨b, rest, hb, ih.mp hrest, rfl⟩
    · rintro ⟨b, rest, hb, hrest, rfl⟩
      exact ⟨b, hb, bind_eq_ok_iff.mpr ⟨rest, ih.mpr hrest, rfl⟩⟩

end Except

/-- Lists that are related item by item: every item of either list has its partner in the other. -/
theorem exists_mem_of_forall₂ {α β : Type} {R : α → β → Prop} {as : List α} {bs : List β}
    (h : List.Forall₂ R as bs) : (∀ a ∈ as, ∃ b ∈ bs, R a b) ∧ ∀ b ∈ bs, ∃ a ∈ as, R a b := by
  induction h with
  | nil => simp
  | cons hab _ ih =>
    simp only [List.forall_mem_cons, List.exists_mem_cons_iff]
    exact ⟨⟨.inl hab, fun a ha => .inr (ih.1 a ha)⟩, ⟨.inl hab, fun b hb => .inr (ih.2 b hb)⟩⟩

theorem Json.asList_eq_ok_iff {α : Type} {item : Json → Except ShapeError α} {v : Json}
    {as : List α} : asList item v = .ok as ↔
      ∃ items, v = .arr items ∧ List.Forall₂ (fun w a => item w = .ok a) items as := by
  cases v <;> simp [asList, mapM_eq_ok_iff]

namespace Import

/-- A text counts when the member is a string that is not blank. -/
theorem text?_eq_some_iff {key s : String} {v : Json} :
    text? key v = some s ↔ v.member? key = some (.str s) ∧ Nonblank s := by
  rw [text?, Option.filter_eq_some_iff, nonblank_iff, Option.bind_eq_some_iff]
  constructor
  · rintro ⟨⟨w, hw, hs⟩, hblank⟩
    cases w <;> cases hs
    exact ⟨hw, by simpa using hblank⟩
  · rintro ⟨hw, hblank⟩
    exact ⟨⟨_, hw, rfl⟩, by simpa using hblank⟩

/-- A list counts when the member is an array. -/
theorem list?_eq_some_iff {key : String} {v : Json} {items : List Json} :
    list? key v = some items ↔ v.member? key = some (.arr items) := by
  rw [list?, Option.bind_eq_some_iff]
  constructor
  · rintro ⟨w, hw, hitems⟩
    cases w <;> cases hitems
    exact hw
  · intro h
    exact ⟨_, h, rfl⟩

/-- A column is read when its name and its type count, and everything else is as it may be. -/
theorem column?_eq_some_iff {v : Json} {c : Column} :
    column? v = some c ↔ text? "name" v = some c.name ∧ text? "type" v = some c.type ∧
      flag "primaryKey" v = c.primaryKey ∧ flag "autoIncrement" v = c.autoIncrement ∧
      flag "required" v = c.required ∧ flag "unique" v = c.unique ∧
      text? "defaultValue" v = c.defaultValue ∧ text? "reference" v = c.reference := by
  obtain ⟨name, type, pk, ai, rq, uq, dv, rf⟩ := c
  rw [column?]
  cases text? "name" v with
  | none => simp
  | some n =>
    cases text? "type" v with
    | none => simp
    | some t => simp

/-- The columns are read one by one; the index does not matter. -/
theorem columns_eq_ok_iff {name : String} {index : Nat} {items : List Json} {cs : List Column} :
    columns name index items = .ok cs ↔ List.Forall₂ (fun v c => column? v = some c) items cs := by
  induction items generalizing index cs with
  | nil => simp [columns, eq_comm]
  | cons v items ih =>
    rw [columns, List.forall₂_cons_left_iff]
    cases hv : column? v with
    | none => simp
    | some c =>
      rw [map_eq_ok_iff]
      constructor
      · rintro ⟨rest, hrest, rfl⟩
        exact ⟨c, rest, rfl, ih.mp hrest, rfl⟩
      · rintro ⟨c', rest, hc, hrest, rfl⟩
        cases hc
        exact ⟨rest, ih.mpr hrest, rfl⟩

/-- The relations are read one by one; there are none without a member for them, or with a member
that is null. -/
theorem relations_eq_ok_iff {v : Json} {rs : List Relation} : relations v = .ok rs ↔
    ((v.member? "relations" = none ∨ v.member? "relations" = some .null) ∧ rs = []) ∨
      ∃ items, v.member? "relations" = some (.arr items) ∧
        List.Forall₂ (fun w r => Relation.ofJson w = .ok r) items rs := by
  rw [relations]
  cases hv : v.member? "relations" with
  | none => simp [eq_comm]
  | some w =>
    cases w with
    | null => simp [eq_comm]
    | bool | num | str | arr | obj => simp [mapError_eq_ok_iff, asList_eq_ok_iff]

/-- The value describes the table: its name counts, its columns are read one by one, and its
relations are read. -/
structure Describes (v : Json) (t : Table) : Prop where
  name : text? "name" v = some t.name
  columns : ∃ items, list? "columns" v = some items ∧
    List.Forall₂ (fun w c => column? w = some c) items t.columns
  relations : relations v = .ok t.relations

/-- A table is read exactly as what the value describes; the index does not matter. -/
theorem table_eq_ok_iff {index : Nat} {v : Json} {t : Table} :
    table index v = .ok t ↔ Describes v t := by
  rw [table]
  constructor
  · intro h
    split at h
    · rename_i name items hname hitems
      obtain ⟨cs, hcs, h⟩ := bind_eq_ok_iff.mp h
      obtain ⟨rs, hrs, h⟩ := bind_eq_ok_iff.mp h
      cases h
      exact ⟨hname, ⟨items, hitems, columns_eq_ok_iff.mp hcs⟩, hrs⟩
    · contradiction
  · rintro ⟨hname, ⟨items, hitems, hcs⟩, hrs⟩
    simp only [hname, hitems]
    refine bind_eq_ok_iff.mpr ⟨_, columns_eq_ok_iff.mpr hcs, ?_⟩
    exact bind_eq_ok_iff.mpr ⟨_, hrs, rfl⟩

/-- The tables are read one by one; the index does not matter. -/
theorem tables_eq_ok_iff {index : Nat} {items : List Json} {s : Schema} :
    tables index items = .ok s ↔ List.Forall₂ Describes items s := by
  induction items generalizing index s with
  | nil => simp [tables, eq_comm]
  | cons v items ih =>
    rw [tables, List.forall₂_cons_left_iff, bind_eq_ok_iff]
    constructor
    · rintro ⟨t, ht, h⟩
      obtain ⟨ts, hts, h⟩ := bind_eq_ok_iff.mp h
      cases h
      exact ⟨t, ts, table_eq_ok_iff.mp ht, ih.mp hts, rfl⟩
    · rintro ⟨t, ts, ht, hts, rfl⟩
      exact ⟨t, table_eq_ok_iff.mpr ht, bind_eq_ok_iff.mpr ⟨ts, ih.mpr hts, rfl⟩⟩

/-- **What import accepts**: a value with a list of tables that is not empty and in which every
table is described. -/
theorem document_eq_ok_iff {v : Json} {d : Document} :
    document v = .ok d ↔ d.tables ≠ [] ∧ d.dialect = text? "dialect" v ∧
      ∃ items, list? "tables" v = some items ∧ List.Forall₂ Describes items d.tables := by
  rw [document]
  constructor
  · intro h
    split at h
    · contradiction
    · contradiction
    · rename_i items hne hitems
      obtain ⟨ts, hts, h⟩ := bind_eq_ok_iff.mp h
      cases h
      -- No table was read from no item, and a list without items was refused before.
      have hall := tables_eq_ok_iff.mp hts
      refine ⟨?_, rfl, items, hitems, hall⟩
      rintro rfl
      exact hne (List.forall₂_nil_right_iff.mp hall)
  · rintro ⟨hne, hdialect, items, hitems, hall⟩
    rw [hitems]
    cases items with
    | nil => exact absurd (List.forall₂_nil_left_iff.mp hall) hne
    | cons v items =>
      refine bind_eq_ok_iff.mpr ⟨d.tables, tables_eq_ok_iff.mpr hall, ?_⟩
      rw [← hdialect]
      rfl

end Import

/-- A document is read from the value that the text holds. -/
theorem Document.ofText_eq_ok_iff {s : String} {d : Document} :
    ofText s = .ok d ↔ ∃ v, read s = .ok v ∧ Import.document v = .ok d := by
  rw [ofText]
  cases read s with
  | error e => simp
  | ok v => simp

end SchemaWorkbench
