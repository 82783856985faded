import SchemaWorkbench.Proofs.Interchange.Accepted
import SchemaWorkbench.Proofs.Interchange.RoundTrip

/-!
# What import refuses, and why

A table can be broken at its head, at one of its columns and at its relations. Import stops at the
first table that is broken, and of what is wrong with this table it reports the first in this order;
of the columns, the first. A table that is not broken is read, and its names and types are taken
over as they are.

What is broken is said of the value alone, without the importer: the statements below compare it
with the two walks of the importer over the tables and over the columns of one table, each of which
counts as it goes.

## Main definitions

* `FirstAt p l i a`: the first element of `l` that satisfies `p` is `a`, and it has the index `i`
* `Import.BrokenHead`, `Import.BrokenColumn`, `Import.BrokenRelations`: what is wrong with a table
* `Import.Fault index v e`: what is reported of the table `v` with the index `index`
* `Import.TakenOver v t`: the names and types of `v` are those of `t`, in order

## Main results

* `Import.columns_eq_error_iff`, `Import.table_eq_error_iff`, `Import.tables_eq_error_iff`: the
  errors of columns, of a table and of tables
* `Import.document_eq_noTables_iff`, `Import.document_eq_error_iff`, `Import.exists_document_iff`:
  the errors of a document, and when it has none
* `Document.ofText_first_error`: the same for a text, and what is taken over when there is no error
-/

namespace SchemaWorkbench

open Json

section Except

variable {ε ε' α β : Type} {x : Except ε α} {e : ε}

/-- A computation of two steps fails with the error of the first step that fails. -/
theorem bind_eq_error_iff {f : α → Except ε β} :
    (x >>= f) = .error e ↔ x = .error e ∨ ∃ a, x = .ok a ∧ f a = .error e := by
  cases x <;> simp [bind, Except.bind]

/-- A computation succeeds when it has no error. -/
theorem exists_eq_ok_iff : (∃ a, x = .ok a) ↔ ¬ ∃ e, x = .error e := by
  cases x <;> simp

theorem map_eq_error_iff {f : α → β} : x.map f = .error e ↔ x = .error e := by
  cases x <;> simp [Except.map]

theorem mapError_eq_error_iff {f : ε → ε'} {e' : ε'} :
    x.mapError f = .error e' ↔ ∃ e, x = .error e ∧ e' = f e := by
  cases x <;> simp [Except.mapError, eq_comm]

end Except

/-! ## The first element that satisfies a predicate -/

section FirstAt

variable {α : Type} {p : α → Prop} {a b : α} {l : List α} {i : Nat}

/-- The first element of the list that satisfies `p` is `a`, and it has the index `i`. -/
def FirstAt (p : α → Prop) (l : List α) (i : Nat) (a : α) : Prop :=
  ∃ before after, l = before ++ a :: after ∧ before.length = i ∧ p a ∧ ∀ b ∈ before, ¬ p b

/-- The first such element is the head, or the first one of the tail if the head is none. -/
theorem firstAt_cons : FirstAt p (b :: l) i a ↔
    (p b ∧ i = 0 ∧ a = b) ∨ ¬ p b ∧ ∃ j, i = j + 1 ∧ FirstAt p l j a := by
  constructor
  · rintro ⟨_ | ⟨c, before⟩, after, hl, rfl, ha, hbefore⟩
    · cases hl
      exact .inl ⟨ha, rfl, rfl⟩
    · cases hl
      rw [List.forall_mem_cons] at hbefore
      exact .inr ⟨hbefore.1, _, rfl, before, after, rfl, rfl, ha, hbefore.2⟩
  · rintro (⟨hb, rfl, rfl⟩ | ⟨hb, j, rfl, before, after, rfl, rfl, ha, hbefore⟩)
    · exact ⟨[], l, rfl, rfl, hb, by simp⟩
    · exact ⟨b :: before, after, rfl, rfl, ha, by simpa [hb] using hbefore⟩

theorem not_firstAt_nil : ¬ FirstAt p [] i a := by
  rintro ⟨before, after, hl, -⟩
  simp at hl

/-- There is a first such element if there is one at all. -/
theorem exists_firstAt_iff : (∃ i a, FirstAt p l i a) ↔ ∃ a ∈ l, p a := by
  induction l with
  | nil => simp [not_firstAt_nil]
  | cons b l ih =>
    by_cases hb : p b
    · simp only [List.mem_cons, exists_eq_or_imp, hb, true_or, iff_true]
      exact ⟨0, b, firstAt_cons.mpr (.inl ⟨hb, rfl, rfl⟩)⟩
    · simp only [List.mem_cons, exists_eq_or_imp, hb, false_or, ← ih]
      constructor
      · rintro ⟨i, a, h⟩
        obtain ⟨-, j, -, h⟩ := (firstAt_cons.mp h).resolve_left fun h => hb h.1
        exact ⟨j, a, h⟩
      · rintro ⟨j, a, h⟩
        exact ⟨j + 1, a, firstAt_cons.mpr (.inr ⟨hb, j, rfl, h⟩)⟩

end FirstAt

namespace Import

variable {v : Json} {e : ImportError}

/-! ## What is wrong with a table -/

/-- A text that counts is there: a string that is not blank. -/
def HasText (key : String) (v : Json) : Prop :=
  ∃ s, v.member? key = some (.str s) ∧ Nonblank s

/-- The table has no name or no list of columns. -/
def BrokenHead (v : Json) : Prop :=
  ¬ HasText "name" v ∨ ¬ ∃ items, v.member? "columns" = some (.arr items)

/-- The column has no name or no type. -/
def Incomplete (v : Json) : Prop := ¬ HasText "name" v ∨ ¬ HasText "type" v

/-- The first column without a name or a type has the index `j`. -/
def BrokenColumn (v : Json) (j : Nat) : Prop :=
  ∃ items w, v.member? "columns" = some (.arr items) ∧ FirstAt Incomplete items j w

/-- The relations are there and not null, and they are no list of relations. -/
def BrokenRelations (v : Json) (cause : ShapeError) : Prop :=
  ∃ w, v.member? "relations" = some w ∧ w ≠ .null ∧ asList Relation.ofJson w = .error cause

/-- The table is broken at its head, at a column or at its relations. -/
def Broken (v : Json) : Prop :=
  BrokenHead v ∨ (∃ j, BrokenColumn v j) ∨ ∃ cause, BrokenRelations v cause

/-- What is reported of a table with an index: the first of what is wrong with it. -/
inductive Fault (index : Nat) (v : Json) : ImportError → Prop
  | head (h : BrokenHead v) : Fault index v (.invalidTable index)
  | column {name : String} {j : Nat} (hhead : ¬ BrokenHead v)
      (hname : v.member? "name" = some (.str name)) (h : BrokenColumn v j) :
      Fault index v (.incompleteColumn name j)
  | relations {cause : ShapeError} (hhead : ¬ BrokenHead v) (hcolumn : ∀ j, ¬ BrokenColumn v j)
      (h : BrokenRelations v cause) : Fault index v (.json (.misshapen cause))

/-- A table is broken when there is something to report of it. -/
theorem broken_iff (index : Nat) : Broken v ↔ ∃ e, Fault index v e := by
  constructor
  · intro h
    by_cases hhead : BrokenHead v
    · exact ⟨_, .head hhead⟩
    · by_cases hcolumn : ∃ j, BrokenColumn v j
      · obtain ⟨j, hj⟩ := hcolumn
        obtain ⟨⟨name, hname, -⟩, -⟩ := not_or.mp hhead |>.imp not_not.mp id
        exact ⟨_, .column hhead hname hj⟩
      · obtain ⟨cause, hcause⟩ := (h.resolve_left hhead).resolve_left hcolumn
        exact ⟨_, .relations hhead (not_exists.mp hcolumn) hcause⟩
  · rintro ⟨_, hhead | ⟨-, -, hcolumn⟩ | ⟨-, -, hrelations⟩⟩
    · exact .inl hhead
    · exact .inr (.inl ⟨_, hcolumn⟩)
    · exact .inr (.inr ⟨_, hrelations⟩)

/-! ## The errors of the importer -/

theorem text?_eq_none_iff {key : String} : text? key v = none ↔ ¬ HasText key v := by
  rw [HasText, ← Option.not_isSome_iff_eq_none, Option.isSome_iff_exists]
  simp only [text?_eq_some_iff]

theorem column?_eq_none_iff : column? v = none ↔ Incomplete v := by
  rw [Incomplete, ← text?_eq_none_iff, ← text?_eq_none_iff, column?]
  cases text? "name" v <;> cases text? "type" v <;> simp

/-- The columns fail at the first incomplete one. -/
theorem columns_eq_error_iff {name : String} {index : Nat} {items : List Json} :
    columns name index items = .error e ↔
      ∃ j w, FirstAt Incomplete items j w ∧ e = .incompleteColumn name (index + j) := by
  induction items generalizing index with
  | nil => simp [columns, not_firstAt_nil]
  | cons v items ih =>
    rw [columns]
    simp only [firstAt_cons, ← column?_eq_none_iff]
    cases hv : column? v with
    | none =>
      constructor
      · rintro ⟨⟩
        exact ⟨0, v, .inl ⟨rfl, rfl, rfl⟩, rfl⟩
      · rintro ⟨_, _, ⟨-, rfl, rfl⟩ | ⟨h, -⟩, rfl⟩
        · rfl
        · contradiction
    | some c =>
      rw [map_eq_error_iff, ih]
      constructor
      · rintro ⟨j, w, hw, rfl⟩
        exact ⟨j + 1, w, .inr ⟨by simp, j, rfl, hw⟩, by rw [Nat.add_assoc, Nat.add_comm 1]⟩
      · rintro ⟨_, w, ⟨h, -⟩ | ⟨-, j, rfl, hw⟩, rfl⟩
        · contradiction
        · exact ⟨j, w, hw, by rw [Nat.add_assoc, Nat.add_comm 1]⟩

theorem relations_eq_error_iff :
    relations v = .error e ↔ ∃ cause, BrokenRelations v cause ∧ e = .json (.misshapen cause) := by
  simp only [relations, BrokenRelations]
  cases hv : v.member? "relations" with
  | none => simp
  | some w =>
    cases w with
    | null => simp
    | bool | num | str | arr | obj => simp [mapError_eq_error_iff]

/-- Where the head is not broken, it is read. -/
theorem not_brokenHead_iff : ¬ BrokenHead v ↔
    ∃ name items, text? "name" v = some name ∧ list? "columns" v = some items := by
  rw [BrokenHead, not_or, not_not, not_not, HasText]
  simp only [text?_eq_some_iff, list?_eq_some_iff]
  constructor
  · rintro ⟨⟨name, hname⟩, items, hitems⟩
    exact ⟨name, items, hname, hitems⟩
  · rintro ⟨name, items, hname, hitems⟩
    exact ⟨⟨name, hname⟩, items, hitems⟩

theorem brokenColumn_iff {items : List Json} (hitems : list? "columns" v = some items) {j : Nat} :
    BrokenColumn v j ↔ ∃ w, FirstAt Incomplete items j w := by
  rw [list?_eq_some_iff] at hitems
  simp [BrokenColumn, hitems]

/-- **A table fails with the first of what is wrong with it.** -/
theorem table_eq_error_iff {index : Nat} : table index v = .error e ↔ Fault index v e := by
  by_cases hhead : BrokenHead v
  · -- Without a name and a list nothing else of the table is looked at.
    have hfails : table index v = .error (.invalidTable index) := by
      rw [table]
      split
      · rename_i name items hname hitems
        exact absurd hhead (not_brokenHead_iff.mpr ⟨name, items, hname, hitems⟩)
      · rfl
    rw [hfails]
    constructor
    · rintro ⟨⟩
      exact .head hhead
    · rintro (_ | ⟨h, -, -⟩ | ⟨h, -, -⟩)
      · rfl
      · contradiction
      · contradiction
  · obtain ⟨name, items, hname, hitems⟩ := not_brokenHead_iff.mp hhead
    have htable : table index v = do
        let columns ← columns name 0 items
        let relations ← relations v
        return { name, columns, relations } := by
      simp only [table, hname, hitems]
    have hread : (∃ cs, columns name 0 items = .ok cs) ↔ ∀ j, ¬ BrokenColumn v j := by
      simp only [exists_eq_ok_iff, columns_eq_error_iff, brokenColumn_iff hitems]
      constructor
      · rintro h j ⟨w, hw⟩
        exact h ⟨_, j, w, hw, rfl⟩
      · rintro h ⟨_, j, w, hw, -⟩
        exact h j ⟨w, hw⟩
    have hmember := (text?_eq_some_iff.mp hname).1
    rw [htable, bind_eq_error_iff, columns_eq_error_iff]
    constructor
    · rintro (⟨j, w, hw, rfl⟩ | ⟨cs, hcs, h⟩)
      · rw [Nat.zero_add]
        exact .column hhead hmember ((brokenColumn_iff hitems).mpr ⟨w, hw⟩)
      · rcases bind_eq_error_iff.mp h with hrs | ⟨rs, -, h⟩
        · obtain ⟨cause, hcause, rfl⟩ := relations_eq_error_iff.mp hrs
          exact .relations hhead (hread.mp ⟨cs, hcs⟩) hcause
        · contradiction
    · rintro (h | ⟨-, hmember', hcolumn⟩ | ⟨-, hcolumns, hrelations⟩)
      · contradiction
      · obtain ⟨w, hw⟩ := (brokenColumn_iff hitems).mp hcolumn
        rw [hmember] at hmember'
        cases hmember'
        exact .inl ⟨_, w, hw, by rw [Nat.zero_add]⟩
      · obtain ⟨cs, hcs⟩ := hread.mpr hcolumns
        have hrs := relations_eq_error_iff.mpr ⟨_, hrelations, rfl⟩
        exact .inr ⟨cs, hcs, bind_eq_error_iff.mpr (.inl hrs)⟩

/-- A table that is not broken is read. -/
theorem exists_table_iff (index : Nat) : (∃ t, table index v = .ok t) ↔ ¬ Broken v := by
  simp only [exists_eq_ok_iff, table_eq_error_iff, broken_iff index]

/-- **The tables fail with what is reported of the first broken one.** -/
theorem tables_eq_error_iff {index : Nat} {items : List Json} : tables index items = .error e ↔
    ∃ i w, FirstAt Broken items i w ∧ Fault (index + i) w e := by
  induction items generalizing index with
  | nil => simp [tables, not_firstAt_nil]
  | cons v items ih =>
    rw [tables, bind_eq_error_iff, table_eq_error_iff]
    simp only [firstAt_cons]
    constructor
    · rintro (h | ⟨t, ht, h⟩)
      · exact ⟨0, v, .inl ⟨(broken_iff index).mpr ⟨e, h⟩, rfl, rfl⟩, h⟩
      · -- The first table is read, so that the error is one of the tables after it.
        have hv := (exists_table_iff index).mp ⟨t, ht⟩
        rcases bind_eq_error_iff.mp h with hts | ⟨ts, -, h⟩
        · obtain ⟨j, w, hw, hfault⟩ := ih.mp hts
          refine ⟨j + 1, w, .inr ⟨hv, j, rfl, hw⟩, ?_⟩
          rwa [Nat.add_comm j, ← Nat.add_assoc]
        · contradiction
    · rintro ⟨_, w, ⟨-, rfl, rfl⟩ | ⟨hv, j, rfl, hw⟩, hfault⟩
      · exact .inl hfault
      · obtain ⟨t, ht⟩ := (exists_table_iff index).mpr hv
        rw [Nat.add_comm j, ← Nat.add_assoc] at hfault
        exact .inr ⟨t, ht, bind_eq_error_iff.mpr (.inl (ih.mpr ⟨j, w, hw, hfault⟩))⟩

/-! ## The document -/

/-- The table has the names and types of the value, verbatim and in order. -/
structure TakenOver (v : Json) (t : Table) : Prop where
  name : v.member? "name" = some (.str t.name)
  columns : ∃ items, v.member? "columns" = some (.arr items) ∧
    List.Forall₂ (fun w c => w.member? "name" = some (.str c.name) ∧
      w.member? "type" = some (.str c.type)) items t.columns
  relations :
    ((v.member? "relations" = none ∨ v.member? "relations" = some .null) ∧ t.relations = []) ∨
      ∃ items, v.member? "relations" = some (.arr items) ∧
        List.Forall₂ (fun w r => Relation.ofJson w = .ok r) items t.relations

theorem Describes.takenOver {t : Table} (h : Describes v t) : TakenOver v t := by
  obtain ⟨hname, ⟨items, hitems, hcolumns⟩, hrelations⟩ := h
  refine ⟨(text?_eq_some_iff.mp hname).1, ⟨items, list?_eq_some_iff.mp hitems, ?_⟩,
    relations_eq_ok_iff.mp hrelations⟩
  refine hcolumns.imp fun w c hc => ?_
  obtain ⟨hname, htype, -⟩ := column?_eq_some_iff.mp hc
  exact ⟨(text?_eq_some_iff.mp hname).1, (text?_eq_some_iff.mp htype).1⟩

/-- Where there is a table, the document fails with the tables. -/
theorem document_eq_map {item : Json} {items : List Json}
    (h : v.member? "tables" = some (.arr (item :: items))) :
    document v = (tables 0 (item :: items)).map fun ts => ⟨ts, text? "dialect" v⟩ := by
  rw [document, list?_eq_some_iff.mpr h]
  rfl

theorem document_eq_error_iff {item : Json} {items : List Json}
    (h : v.member? "tables" = some (.arr (item :: items))) :
    document v = .error e ↔ ∃ i w, FirstAt Broken (item :: items) i w ∧ Fault i w e := by
  rw [document_eq_map h, map_eq_error_iff, tables_eq_error_iff]
  simp only [Nat.zero_add]

/-- A document is refused for want of tables exactly when it has no list of them or an empty one. -/
theorem document_eq_noTables_iff : document v = .error .noTables ↔
    ¬ ∃ item items, v.member? "tables" = some (.arr (item :: items)) := by
  constructor
  · -- What is reported of a table is never that there is none.
    rintro h ⟨item, items, htables⟩
    obtain ⟨i, w, -, hfault⟩ := (document_eq_error_iff htables).mp h
    cases hfault
  · intro h
    rw [document]
    split
    · rfl
    · rfl
    · rename_i items hne hitems
      rw [list?_eq_some_iff] at hitems
      cases items with
      | nil => contradiction
      | cons item items => exact absurd ⟨item, items, hitems⟩ h

/-- Where there is a table, a document is accepted exactly when no table is broken. -/
theorem exists_document_iff {item : Json} {items : List Json}
    (h : v.member? "tables" = some (.arr (item :: items))) :
    (∃ d, document v = .ok d) ↔ ∀ w ∈ item :: items, ¬ Broken w := by
  rw [exists_eq_ok_iff, not_iff_comm]
  simp only [not_forall, not_not, exists_prop, ← exists_firstAt_iff, document_eq_error_iff h]
  constructor
  · rintro ⟨i, w, hw⟩
    obtain ⟨-, -, -, -, hbroken, -⟩ := id hw
    obtain ⟨e, he⟩ := (broken_iff i).mp hbroken
    exact ⟨e, i, w, hw, he⟩
  · rintro ⟨e, i, w, hw, -⟩
    exact ⟨i, w, hw⟩

end Import

namespace Document

open Import

/-- **What import refuses, and why.** A text that reads as a value is refused for want of tables
exactly when the value has no list of them or an empty one. Otherwise it is refused with what is
reported of the first broken table, and accepted exactly when no table is broken; then the tables
have the names and types of the value, verbatim and in order. -/
theorem ofText_first_error {s : String} {v : Json} (hread : Json.read s = .ok v) :
    (ofText s = .error .noTables ↔
        ¬ ∃ item items, v.member? "tables" = some (.arr (item :: items))) ∧
      ∀ item items, v.member? "tables" = some (.arr (item :: items)) →
        (∀ e, ofText s = .error e ↔
            ∃ i w, FirstAt Broken (item :: items) i w ∧ Fault i w e) ∧
          ((∃ d, ofText s = .ok d) ↔ ∀ w ∈ item :: items, ¬ Broken w) ∧
          ∀ d, ofText s = .ok d → List.Forall₂ TakenOver (item :: items) d.tables := by
  have hdocument : ofText s = document v := by rw [ofText, hread]
  rw [hdocument]
  refine ⟨document_eq_noTables_iff, fun item items htables => ?_⟩
  refine ⟨fun e => document_eq_error_iff htables, exists_document_iff htables, fun d hd => ?_⟩
  rw [document_eq_map htables, map_eq_ok_iff] at hd
  obtain ⟨ts, hts, rfl⟩ := hd
  exact (tables_eq_ok_iff.mp hts).imp fun _ _ => Describes.takenOver

/-- Of three tables the second has a column without a type and no relations, and the third nothing
at all: reported is the column of the second. -/
theorem second_table_reported :
    let complete := Json.obj [("name", .str "x"), ("type", .str "INT")]
    let untyped := Json.obj [("name", .str "y"), ("type", .str " ")]
    let first := Json.obj [("name", .str "a"), ("columns", .arr [])]
    let second := Json.obj [("name", .str "b"),
      ("columns", .arr [complete, untyped]), ("relations", .bool true)]
    let v := Json.obj [("tables", .arr [first, second, .obj []])]
    Json.read v.compact = .ok v ∧ ofText v.compact = .error (.incompleteColumn "b" 1) := by
  intro complete untyped first second v
  have hread : Json.read v.compact = .ok v := by
    have hcolumn (name type : String) :
        Plain 123 (.obj [("name", .str name), ("type", .str type)]) := .obj (by simp [Plain.str])
    have hcolumns : Plain 124 (.arr [complete, untyped]) :=
      .arr (by simp [complete, untyped, hcolumn])
    have hfirst : Plain 125 first := .obj (by simpa using ⟨.str _, .arr (by simp)⟩)
    have hsecond : Plain 125 second := .obj (by simpa using ⟨.str _, hcolumns, .bool _⟩)
    have hthird : Plain 125 (.obj []) := .obj (by simp)
    exact read_compact (.obj (by simpa using .arr (by simp [hfirst, hsecond, hthird])))
  have hfirst : ¬ Broken first := (exists_table_iff 0).mp ⟨⟨"a", [], []⟩, rfl⟩
  have hsecond : Fault 1 second (.incompleteColumn "b" 1) := by
    have hcomplete : ¬ Incomplete complete := fun h => by
      rw [← column?_eq_none_iff] at h
      contradiction
    refine .column (not_brokenHead_iff.mpr ⟨"b", _, rfl, rfl⟩) rfl ⟨_, untyped, rfl, ?_⟩
    exact ⟨[complete], [], rfl, rfl, column?_eq_none_iff.mp rfl, by simpa using hcomplete⟩
  have hbroken : Broken second := (broken_iff 1).mpr ⟨_, hsecond⟩
  refine ⟨hread, (((ofText_first_error hread).2 first [second, .obj []] rfl).1 _).mpr ?_⟩
  exact ⟨1, second, ⟨[first], [.obj []], rfl, rfl, hbroken, by simpa using hfirst⟩, hsecond⟩

end Document

end SchemaWorkbench
