import SchemaWorkbench.Proofs.Interchange.Accepted

/-!
# Import and the faithful reader

Import and the reader of the faithful form are two readers of one format. The faithful reader is
strict about the kind of every value and takes every text as it is; import takes values of any kind
for a flag and leaves blank texts out. Where the faithful reader reads a document that is written as
objects throughout, both look at the same members: import accepts the document exactly when it has a
table and no name or type in it is blank, and then reads it as the faithful reader does, without the
blank texts.

A column may call its type `typ`, which only the faithful reader knows, and a record may be written
as an array of its fields; hence the conditions on how the document is written.

## Main definitions

* `Table.Complete`, `Document.Complete`: what import asks for of a table and of a document
* `Document.dropBlanks`: the document without the blank texts that may as well be missing
* `Import.ColumnObject`, `Import.TableObject`, `Import.DocumentObject`: columns, tables and
  documents that are written as objects

## Main results

* `Import.column_members`, `Import.table_members`, `Import.document_members`: what import finds in
  an object that the faithful reader reads
* `Import.column?_iff_of_ofJson`, `Import.describes_iff_of_ofJson`, `Import.document_iff_of_ofJson`:
  what import makes of a column, a table and a document that the faithful reader reads
-/

namespace SchemaWorkbench

open Json

/-- The table has a name, and its columns have names and types. -/
structure Table.Complete (t : Table) : Prop where
  name : Nonblank t.name
  columns : ∀ c ∈ t.columns, Nonblank c.name ∧ Nonblank c.type

/-- The document has a table, and its tables are complete. -/
structure Document.Complete (d : Document) : Prop where
  nonempty : d.tables ≠ []
  tables : ∀ t ∈ d.tables, t.Complete

/-- The document without blank references, default values and dialect. -/
def Document.dropBlanks (d : Document) : Document where
  tables := d.tables.map Table.dropBlanks
  dialect := d.dialect.filter (!isBlank ·)

/-- Two readers of items are compared for lists of items: if `S` accepts what `R` reads as `b`
exactly when `p b`, and as `f b`, then it accepts a list exactly when `p` holds throughout. -/
theorem forall₂_iff_map {α β γ : Type} {R : α → β → Prop} {S : α → γ → Prop} {p : β → Prop}
    {f : β → γ} {as : List α} {bs : List β} {cs : List γ}
    (h : ∀ a b, R a b → ∀ c, S a c ↔ p b ∧ c = f b) (hbs : List.Forall₂ R as bs) :
    List.Forall₂ S as cs ↔ (∀ b ∈ bs, p b) ∧ cs = bs.map f := by
  induction hbs generalizing cs with
  | nil => simp
  | cons hab _ ih =>
    rw [List.forall₂_cons_left_iff, List.forall_mem_cons, List.map_cons]
    simp only [h _ _ hab, ih]
    constructor
    · rintro ⟨_, _, ⟨hb, rfl⟩, ⟨hbs, rfl⟩, rfl⟩
      exact ⟨⟨hb, hbs⟩, rfl⟩
    · rintro ⟨⟨hb, hbs⟩, rfl⟩
      exact ⟨_, _, ⟨hb, rfl⟩, ⟨hbs, rfl⟩, rfl⟩

/-! ## The members of an object -/

namespace Json

variable {v : Json} {members : List (String × Json)} {key : String}

/-- The value is written as an object. -/
def IsObject (v : Json) : Prop := ∃ members, v = .obj members

theorem asText_eq_ok_iff {s : String} : asText v = .ok s ↔ v = .str s := by
  cases v <;> simp [asText]

theorem asFlag_eq_ok_iff {b : Bool} : asFlag v = .ok b ↔ v = .bool b := by
  cases v <;> simp [asFlag]

section Fields

variable {α : Type} {value : Json → Except ShapeError α} {o : Option α} {a : α}

/-- A member is read when it is missing or its value is read. -/
theorem memberAt?_eq_ok_iff : memberAt? members key value = .ok o ↔
    (lookup? members key = none ∧ o = none) ∨
      ∃ v a, lookup? members key = some v ∧ value v = .ok a ∧ o = some a := by
  rw [memberAt?]
  cases lookup? members key with
  | none => simp [eq_comm]
  | some v =>
    show (value v).map some = .ok o ↔ _
    rw [map_eq_ok_iff]
    simp [eq_comm]

/-- A field that must be there is there, and its value is read. -/
theorem exists_member?_of_mandatory (ho : memberAt? members key value = .ok o)
    (ha : mandatory key o = .ok a) :
    ∃ v, (Json.obj members).member? key = some v ∧ value v = .ok a := by
  obtain ⟨-, rfl⟩ | ⟨v, b, hv, hb, rfl⟩ := memberAt?_eq_ok_iff.mp ho
  · contradiction
  · cases ha
    exact ⟨v, hv, hb⟩

end Fields

theorem member?_of_mandatory_text {o : Option String} {s : String}
    (ho : memberAt? members key asText = .ok o) (hs : mandatory key o = .ok s) :
    (Json.obj members).member? key = some (.str s) := by
  obtain ⟨v, hv, hread⟩ := exists_member?_of_mandatory ho hs
  rw [hv, asText_eq_ok_iff.mp hread]

/-- A list that must be there is there, and its items are read one by one. -/
theorem exists_items_of_mandatory {α : Type} {item : Json → Except ShapeError α}
    {o : Option (List α)} {as : List α} (ho : memberAt? members key (asList item) = .ok o)
    (has : mandatory key o = .ok as) :
    ∃ items, (Json.obj members).member? key = some (.arr items) ∧
      List.Forall₂ (fun w a => item w = .ok a) items as := by
  obtain ⟨v, hv, hread⟩ := exists_member?_of_mandatory ho has
  obtain ⟨items, rfl, hitems⟩ := asList_eq_ok_iff.mp hread
  exact ⟨items, hv, hitems⟩

end Json

namespace Import

variable {v : Json} {members : List (String × Json)} {key : String}

/-- A flag is as the faithful reader reads it; one that is missing is not set. -/
theorem flag_of_memberAt? {o : Option Bool} (h : memberAt? members key asFlag = .ok o) :
    flag key (.obj members) = o.getD false := by
  rw [flag, member?]
  obtain ⟨hv, rfl⟩ | ⟨v, b, hv, hb, rfl⟩ := memberAt?_eq_ok_iff.mp h
  · rw [hv]
    rfl
  · rw [hv, asFlag_eq_ok_iff.mp hb]
    rfl

/-- A text that may be missing is as the faithful reader reads it, unless it is blank. -/
theorem text?_of_memberAt? {o : Option (Option String)}
    (h : memberAt? members key (asOptional asText) = .ok o) :
    text? key (.obj members) = (o.getD none).filter (!isBlank ·) := by
  rw [text?, member?]
  obtain ⟨hv, rfl⟩ | ⟨v, t, hv, ht, rfl⟩ := memberAt?_eq_ok_iff.mp h
  · rw [hv]
    rfl
  · rw [hv]
    -- The faithful reader refuses everything but texts and null.
    cases v with
    | null | str =>
      cases ht
      rfl
    | bool | num | arr | obj => contradiction

/-- The relations of a table are read alike; where they are missing, there are none. -/
theorem relations_of_memberAt? {o : Option (List Relation)}
    (h : memberAt? members "relations" (asList Relation.ofJson) = .ok o) :
    relations (.obj members) = .ok (o.getD []) := by
  rw [relations_eq_ok_iff, member?]
  obtain ⟨hv, rfl⟩ | ⟨v, rs, hv, hrs, rfl⟩ := memberAt?_eq_ok_iff.mp h
  · exact .inl ⟨.inl hv, rfl⟩
  · obtain ⟨items, rfl, hitems⟩ := asList_eq_ok_iff.mp hrs
    exact .inr ⟨items, hv, hitems⟩

/-! ## Columns -/

/-- The column is written as an object in which the type goes by one name only. -/
structure ColumnObject (v : Json) : Prop where
  isObject : v.IsObject
  noAlias : v.member? "typ" = none

/-- Without its other name the type of a column is the member `type`. -/
theorem typeMember?_eq (htyp : lookup? members "typ" = none) :
    Column.typeMember? members = memberAt? members "type" asText := by
  rw [Column.typeMember?, memberAt?, htyp]
  show (memberAt? members "type" asText >>= fun long => .ok (long <|> none)) = _
  cases memberAt? members "type" asText with
  | error e => rfl
  | ok long => cases long <;> rfl

/-- What import finds in an object that the faithful reader reads as a column. -/
theorem column_members {c : Column} (hv : ColumnObject v) (h : Column.ofJson v = .ok c) :
    v.member? "name" = some (.str c.name) ∧ v.member? "type" = some (.str c.type) ∧
      flag "primaryKey" v = c.primaryKey ∧ flag "autoIncrement" v = c.autoIncrement ∧
      flag "required" v = c.required ∧ flag "unique" v = c.unique ∧
      text? "defaultValue" v = c.defaultValue.filter (!isBlank ·) ∧
      text? "reference" v = c.reference.filter (!isBlank ·) := by
  obtain ⟨⟨members, rfl⟩, htyp⟩ := hv
  -- The members are read in the order of their keys, and then the two that must be there.
  obtain ⟨autoIncrement, hautoIncrement, h⟩ := bind_eq_ok_iff.mp h
  obtain ⟨defaultValue, hdefaultValue, h⟩ := bind_eq_ok_iff.mp h
  obtain ⟨name?, hname?, h⟩ := bind_eq_ok_iff.mp h
  obtain ⟨primaryKey, hprimaryKey, h⟩ := bind_eq_ok_iff.mp h
  obtain ⟨reference, hreference, h⟩ := bind_eq_ok_iff.mp h
  obtain ⟨isRequired, hrequired, h⟩ := bind_eq_ok_iff.mp h
  obtain ⟨type?, htype?, h⟩ := bind_eq_ok_iff.mp h
  obtain ⟨unique, hunique, h⟩ := bind_eq_ok_iff.mp h
  obtain ⟨name, hname, h⟩ := bind_eq_ok_iff.mp h
  obtain ⟨type, htype, h⟩ := bind_eq_ok_iff.mp h
  cases h
  rw [typeMember?_eq htyp] at htype?
  exact ⟨member?_of_mandatory_text hname? hname, member?_of_mandatory_text htype? htype,
    flag_of_memberAt? hprimaryKey, flag_of_memberAt? hautoIncrement, flag_of_memberAt? hrequired,
    flag_of_memberAt? hunique, text?_of_memberAt? hdefaultValue, text?_of_memberAt? hreference⟩

/-- A text that is there counts when it is not blank. -/
theorem text?_eq_some_iff_of_str {s s' : String} (h : v.member? key = some (.str s)) :
    text? key v = some s' ↔ Nonblank s ∧ s' = s := by
  rw [text?_eq_some_iff, h, Option.some.injEq, Json.str.injEq]
  constructor
  · rintro ⟨rfl, hs⟩
    exact ⟨hs, rfl⟩
  · rintro ⟨hs, rfl⟩
    exact ⟨rfl, hs⟩

/-- Import accepts a column that the faithful reader reads when its name and its type are not blank,
and drops its blank texts. -/
theorem column?_iff_of_ofJson {c c' : Column} (hv : ColumnObject v) (h : Column.ofJson v = .ok c) :
    column? v = some c' ↔ (Nonblank c.name ∧ Nonblank c.type) ∧ c' = c.dropBlanks := by
  obtain ⟨hname, htype, hpk, hai, hrq, huq, hdefault, hreference⟩ := column_members hv h
  rw [column?_eq_some_iff, text?_eq_some_iff_of_str hname, text?_eq_some_iff_of_str htype, hpk, hai,
    hrq, huq, hdefault, hreference]
  obtain ⟨_, _, _, _, _, _, _, _⟩ := c'
  rw [Column.dropBlanks, Column.mk.injEq]
  constructor
  · rintro ⟨⟨hn, rfl⟩, ⟨ht, rfl⟩, rfl, rfl, rfl, rfl, rfl, rfl⟩
    exact ⟨⟨hn, ht⟩, rfl, rfl, rfl, rfl, rfl, rfl, rfl, rfl⟩
  · rintro ⟨⟨hn, ht⟩, rfl, rfl, rfl, rfl, rfl, rfl, rfl, rfl⟩
    exact ⟨⟨hn, rfl⟩, ⟨ht, rfl⟩, rfl, rfl, rfl, rfl, rfl, rfl⟩

/-! ## Tables -/

/-- The table is written as an object, and so are its columns. -/
structure TableObject (v : Json) : Prop where
  isObject : v.IsObject
  columns : ∀ items, v.member? "columns" = some (.arr items) → ∀ w ∈ items, ColumnObject w

/-- What import finds in an object that the faithful reader reads as a table. -/
theorem table_members {t : Table} (hv : v.IsObject) (h : Table.ofJson v = .ok t) :
    v.member? "name" = some (.str t.name) ∧
      (∃ items, v.member? "columns" = some (.arr items) ∧
        List.Forall₂ (fun w c => Column.ofJson w = .ok c) items t.columns) ∧
      relations v = .ok t.relations := by
  obtain ⟨members, rfl⟩ := hv
  obtain ⟨columns?, hcolumns?, h⟩ := bind_eq_ok_iff.mp h
  obtain ⟨name?, hname?, h⟩ := bind_eq_ok_iff.mp h
  obtain ⟨relations?, hrelations?, h⟩ := bind_eq_ok_iff.mp h
  obtain ⟨name, hname, h⟩ := bind_eq_ok_iff.mp h
  obtain ⟨columns, hcolumns, h⟩ := bind_eq_ok_iff.mp h
  cases h
  exact ⟨member?_of_mandatory_text hname? hname, exists_items_of_mandatory hcolumns? hcolumns,
    relations_of_memberAt? hrelations?⟩

/-- Import accepts a table that the faithful reader reads when it is complete, and drops the blank
texts of its columns. -/
theorem describes_iff_of_ofJson {t t' : Table} (hv : TableObject v) (h : Table.ofJson v = .ok t) :
    Describes v t' ↔ t.Complete ∧ t' = t.dropBlanks := by
  obtain ⟨hname, ⟨items, hitems, hread⟩, hrelations⟩ := table_members hv.isObject h
  have hlist := list?_eq_some_iff.mpr hitems
  have hcolumns (cs' : List Column) : List.Forall₂ (fun w c => column? w = some c) items cs' ↔
      (∀ c ∈ t.columns, Nonblank c.name ∧ Nonblank c.type) ∧
        cs' = t.columns.map Column.dropBlanks :=
    forall₂_iff_map (fun w c hw c' => column?_iff_of_ofJson hw.1 hw.2)
      ((List.forall₂_and_left _ _).mpr ⟨hv.columns items hitems, hread⟩)
  obtain ⟨name', columns', relations'⟩ := t'
  rw [Table.dropBlanks, Table.mk.injEq]
  constructor
  · rintro ⟨hn, ⟨items', hitems', hc⟩, hr⟩
    cases hlist.symm.trans hitems'
    cases hrelations.symm.trans hr
    obtain ⟨hname, rfl⟩ := (text?_eq_some_iff_of_str hname).mp hn
    obtain ⟨hall, rfl⟩ := (hcolumns columns').mp hc
    exact ⟨⟨hname, hall⟩, rfl, rfl, rfl⟩
  · rintro ⟨⟨hn, hall⟩, rfl, rfl, rfl⟩
    exact ⟨(text?_eq_some_iff_of_str hname).mpr ⟨hn, rfl⟩,
      ⟨items, hlist, (hcolumns _).mpr ⟨hall, rfl⟩⟩, hrelations⟩

/-! ## Documents -/

/-- The document is written as an object, and so are its tables. -/
structure DocumentObject (v : Json) : Prop where
  isObject : v.IsObject
  tables : ∀ items, v.member? "tables" = some (.arr items) → ∀ w ∈ items, TableObject w

/-- What import finds in an object that the faithful reader reads as a document. -/
theorem document_members {d : Document} (hv : v.IsObject) (h : Document.ofJson v = .ok d) :
    (∃ items, v.member? "tables" = some (.arr items) ∧
        List.Forall₂ (fun w t => Table.ofJson w = .ok t) items d.tables) ∧
      text? "dialect" v = d.dialect.filter (!isBlank ·) := by
  obtain ⟨members, rfl⟩ := hv
  obtain ⟨dialect?, hdialect?, h⟩ := bind_eq_ok_iff.mp h
  obtain ⟨tables?, htables?, h⟩ := bind_eq_ok_iff.mp h
  obtain ⟨tables, htables, h⟩ := bind_eq_ok_iff.mp h
  cases h
  exact ⟨exists_items_of_mandatory htables? htables, text?_of_memberAt? hdialect?⟩

/-- **Import of what the faithful reader reads.** A document is accepted exactly when it is
complete, and it is read without its blank texts. -/
theorem document_iff_of_ofJson {d d' : Document} (hv : DocumentObject v)
    (h : Document.ofJson v = .ok d) : document v = .ok d' ↔ d.Complete ∧ d' = d.dropBlanks := by
  obtain ⟨⟨items, hitems, hread⟩, hdialect⟩ := document_members hv.isObject h
  have hlist := list?_eq_some_iff.mpr hitems
  have htables (ts' : Schema) : List.Forall₂ Describes items ts' ↔
      (∀ t ∈ d.tables, t.Complete) ∧ ts' = d.tables.map Table.dropBlanks :=
    forall₂_iff_map (fun w t hw t' => describes_iff_of_ofJson hw.1 hw.2)
      ((List.forall₂_and_left _ _).mpr ⟨hv.tables items hitems, hread⟩)
  have hnonempty : d.tables.map Table.dropBlanks ≠ [] ↔ d.tables ≠ [] :=
    not_congr List.map_eq_nil_iff
  obtain ⟨tables', dialect'⟩ := d'
  rw [document_eq_ok_iff, hdialect, Document.dropBlanks, Document.mk.injEq]
  simp only [hlist, Option.some.injEq, exists_eq_left', htables]
  constructor
  · rintro ⟨hne, rfl, hall, rfl⟩
    exact ⟨⟨hnonempty.mp hne, hall⟩, rfl, rfl⟩
  · rintro ⟨⟨hne, hall⟩, rfl, rfl⟩
    exact ⟨hnonempty.mpr hne, rfl, hall, rfl⟩

end Import

end SchemaWorkbench
