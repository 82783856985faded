import SchemaWorkbench.Proofs.Interchange.Lenient
import SchemaWorkbench.Proofs.Json.Faithful
import SchemaWorkbench.Proofs.Schema.Codec

/-!
# Documents that survive being written and read

The text of a document reads back as the value that was printed. The faithful reader gives the
document back as it was, whatever its texts are, so that the question is which documents import
takes over from their own faithful form without a change. Relations and flags always survive. A name
or a type must not be blank, or the document is refused; a blank reference, default value or dialect
is lost.

## Main results

* `Document.plain_toJson`: a document can be printed and read, whatever its texts are
* `faithful_form_lossless`: the faithful reader gives back what was written
* `Document.document_toJson`: what import makes of the faithful form
* `Document.document_toJson_iff`: the documents that import takes over without a change
* `Document.ofText_text_iff`: the schemas whose documents survive being written and read
-/

namespace SchemaWorkbench

open Json

/-! ## Documents as plain values -/

theorem Json.plain_ofText? (n : Nat) (o : Option String) : Plain n (Json.ofText? o) := by
  cases o with
  | none => exact .null
  | some s => exact .str s

theorem Column.plain_toJson (n : Nat) (c : Column) : Plain (n + 1) c.toJson := by
  refine .obj ?_
  simp only [List.forall_mem_cons]
  exact ⟨.str _, .str _, .bool _, .bool _, .bool _, .bool _, plain_ofText? _ _, plain_ofText? _ _,
    by simp⟩

theorem Relation.plain_toJson (n : Nat) (r : Relation) : Plain (n + 1) r.toJson := by
  refine .obj ?_
  simp only [List.forall_mem_cons]
  exact ⟨.str _, .str _, .str _, .str _, .str _, by simp⟩

/-- A list of values is plain when its items are. -/
theorem Json.plain_map {α : Type} {write : α → Json} {n : Nat} (h : ∀ a, Plain n (write a))
    (as : List α) : Plain (n + 1) (.arr (as.map write)) :=
  .arr (List.forall_mem_map.mpr fun a _ => h a)

theorem Table.plain_toJson (n : Nat) (t : Table) : Plain (n + 3) t.toJson := by
  refine .obj ?_
  simp only [List.cons_append, List.nil_append, List.forall_mem_cons]
  refine ⟨.str _, plain_map (Column.plain_toJson n) _, ?_⟩
  split
  · simp
  · simpa using plain_map (Relation.plain_toJson n) _

/-- **A document can be printed and read**, whatever its texts are. -/
theorem Document.plain_toJson (n : Nat) (d : Document) : Plain (n + 5) d.toJson := by
  refine .obj ?_
  simp only [List.forall_mem_cons]
  refine ⟨plain_map (Table.plain_toJson n) _, ?_⟩
  split
  · simpa using .str _
  · simp

/-- The text of a document reads as its faithful form. -/
theorem Document.read_text (d : Document) : read d.text = .ok d.toJson :=
  read_pretty (d.plain_toJson 122)

/-! ## Reading the faithful form -/

theorem Document.ofJson_toJson (d : Document) : ofJson d.toJson = .ok d := by
  obtain ⟨tables, dialect⟩ := d
  have htables := Schema.ofJson_toJson tables
  cases dialect with
  | none | some =>
    show ofMembers _ = _
    rw [ofMembers, memberAt?_of_lookup? rfl htables]
    rfl

/-- **The faithful form loses nothing.** Schemas, columns, relations and documents are read back
from their JSON values, whatever their texts are; hence different schemas have different values, and
different texts on one line as well as over several lines. -/
theorem faithful_form_lossless :
    (∀ s : Schema, Schema.ofJson s.toJson = .ok s) ∧
      (∀ c : Column, Column.ofJson c.toJson = .ok c) ∧
      (∀ r : Relation, Relation.ofJson r.toJson = .ok r) ∧
      (∀ d : Document, Document.ofJson d.toJson = .ok d) ∧
      Function.Injective Schema.toJson ∧ Function.Injective (fun s : Schema => s.toJson.compact) ∧
      Function.Injective (fun s : Schema => s.toJson.pretty) := by
  have hinjective : Function.Injective Schema.toJson := by
    intro s s' h
    have hread := s.ofJson_toJson
    rw [h, s'.ofJson_toJson] at hread
    exact (Except.ok.inj hread).symm
  -- A text is read back as the value that it was printed from.
  have hplain (s : Schema) : Plain nestingLimit s.toJson := plain_map (Table.plain_toJson 123) s
  refine ⟨Schema.ofJson_toJson, Column.ofJson_toJson, Relation.ofJson_toJson,
    Document.ofJson_toJson, hinjective, fun s s' h => hinjective ?_, fun s s' h => hinjective ?_⟩
  · have hread := read_compact (hplain s)
    rw [show s.toJson.compact = s'.toJson.compact from h, read_compact (hplain s')] at hread
    exact (Except.ok.inj hread).symm
  · have hread := read_pretty (hplain s)
    rw [show s.toJson.pretty = s'.toJson.pretty from h, read_pretty (hplain s')] at hread
    exact (Except.ok.inj hread).symm

namespace Import

/-- The faithful form is written as objects, and the type of a column has one name in it. -/
theorem columnObject_toJson (c : Column) : ColumnObject c.toJson := ⟨⟨_, rfl⟩, rfl⟩

theorem tableObject_toJson (t : Table) : TableObject t.toJson := by
  have hcolumns : t.toJson.member? "columns" = some (.arr (t.columns.map Column.toJson)) := by
    obtain ⟨name, cs, rs⟩ := t
    cases rs <;> rfl
  refine ⟨⟨_, rfl⟩, fun items hitems => ?_⟩
  cases hcolumns.symm.trans hitems
  exact List.forall_mem_map.mpr fun c _ => columnObject_toJson c

theorem documentObject_toJson (d : Document) : DocumentObject d.toJson := by
  have htables : d.toJson.member? "tables" = some (.arr (d.tables.map Table.toJson)) := by
    obtain ⟨ts, _ | s⟩ := d <;> rfl
  refine ⟨⟨_, rfl⟩, fun items hitems => ?_⟩
  cases htables.symm.trans hitems
  exact List.forall_mem_map.mpr fun t _ => tableObject_toJson t

theorem filter_eq_self_iff {o : Option String} :
    o.filter (!isBlank ·) = o ↔ ∀ s ∈ o, Nonblank s := by
  cases o <;> simp [nonblank_iff, Option.filter_some]

end Import

/-! ## Importing the faithful form -/

@[simp] theorem Column.dropBlanks_dropBlanks (c : Column) :
    c.dropBlanks.dropBlanks = c.dropBlanks := by
  simp [Column.dropBlanks, Option.filter_filter]

/-- Nothing is left out of a column exactly when its reference and its default value are not
blank. -/
theorem Column.dropBlanks_eq_self_iff {c : Column} : c.dropBlanks = c ↔
    (∀ s ∈ c.reference, Nonblank s) ∧ ∀ s ∈ c.defaultValue, Nonblank s := by
  rw [← Import.filter_eq_self_iff, ← Import.filter_eq_self_iff]
  obtain ⟨name, type⟩ := c
  simp [dropBlanks, and_comm]

theorem Table.dropBlanks_eq_self_iff {t : Table} :
    t.dropBlanks = t ↔ ∀ c ∈ t.columns, c.dropBlanks = c := by
  have hcolumns : t.columns.map Column.dropBlanks = t.columns ↔
      ∀ c ∈ t.columns, c.dropBlanks = c := by
    simpa using List.map_inj_left (l := t.columns) (f := Column.dropBlanks) (g := id)
  rw [← hcolumns]
  obtain ⟨name, columns, relations⟩ := t
  simp [dropBlanks]

namespace Document

/-- Nothing is left out of a document exactly when the texts that may be missing are not blank. -/
theorem dropBlanks_eq_self_iff {d : Document} : d.dropBlanks = d ↔
    (∀ s ∈ d.dialect, Nonblank s) ∧ ∀ t ∈ d.tables, ∀ c ∈ t.columns, c.dropBlanks = c := by
  have htables : d.tables.map Table.dropBlanks = d.tables ↔ ∀ t ∈ d.tables, t.dropBlanks = t := by
    simpa using List.map_inj_left (l := d.tables) (f := Table.dropBlanks) (g := id)
  simp only [Table.dropBlanks_eq_self_iff] at htables
  rw [← htables, ← Import.filter_eq_self_iff, and_comm]
  obtain ⟨tables, dialect⟩ := d
  simp [dropBlanks]

/-- Import makes of the faithful form of a document what it makes of the document: it must be
complete, and its blank texts are left out. -/
theorem document_toJson {d d' : Document} :
    Import.document d.toJson = .ok d' ↔ d.Complete ∧ d' = d.dropBlanks :=
  Import.document_iff_of_ofJson (Import.documentObject_toJson d) d.ofJson_toJson

/-- **The documents that import takes over without a change**: there is a table, names and types are
not blank, and neither are the other texts that are there. -/
theorem document_toJson_iff {d : Document} : Import.document d.toJson = .ok d ↔
    d.tables ≠ [] ∧ (∀ s ∈ d.dialect, Nonblank s) ∧ ∀ t ∈ d.tables, Nonblank t.name ∧
      ∀ c ∈ t.columns, Nonblank c.name ∧ Nonblank c.type ∧ c.dropBlanks = c := by
  rw [document_toJson, eq_comm, dropBlanks_eq_self_iff]
  constructor
  · rintro ⟨⟨hne, hcomplete⟩, hdialect, hblanks⟩
    refine ⟨hne, hdialect, fun t ht => ⟨(hcomplete t ht).name, fun c hc => ?_⟩⟩
    obtain ⟨hname, htype⟩ := (hcomplete t ht).columns c hc
    exact ⟨hname, htype, hblanks t ht c hc⟩
  · rintro ⟨hne, hdialect, hall⟩
    refine ⟨⟨hne, fun t ht => ⟨(hall t ht).1, fun c hc => ?_⟩⟩, hdialect, fun t ht c hc => ?_⟩
    · obtain ⟨hname, htype, -⟩ := (hall t ht).2 c hc
      exact ⟨hname, htype⟩
    · exact ((hall t ht).2 c hc).2.2

theorem ofText_text (d : Document) : ofText d.text = Import.document d.toJson := by
  rw [ofText, d.read_text]

/-- The document of a schema, with a dialect if there is one. -/
def ofSchemaFor (s : Schema) (dialect : Option String) : Document :=
  dialect.elim (ofSchema s) (ofSchema s).withDialect

@[simp] theorem tables_ofSchemaFor (s : Schema) (dialect : Option String) :
    (ofSchemaFor s dialect).tables = s.map Table.dropBlanks := by
  cases dialect <;> rfl

@[simp] theorem dialect_ofSchemaFor (s : Schema) (dialect : Option String) :
    (ofSchemaFor s dialect).dialect = dialect := by
  cases dialect <;> rfl

/-- **The schemas whose documents survive being written and read.** The document of a schema, with
or without a dialect, is imported from its own text without a change exactly when there is a table,
every table name, column name and column type holds a character other than whitespace, and so does
the dialect if there is one. -/
theorem ofText_text_iff (s : Schema) (dialect : Option String) :
    ofText (ofSchemaFor s dialect).text = .ok (ofSchemaFor s dialect) ↔
      s ≠ [] ∧ (∀ t ∈ s, Nonblank t.name ∧ ∀ c ∈ t.columns, Nonblank c.name ∧ Nonblank c.type) ∧
        ∀ d ∈ dialect, Nonblank d := by
  rw [ofText_text, document_toJson_iff, tables_ofSchemaFor, dialect_ofSchemaFor]
  simp only [ne_eq, List.map_eq_nil_iff, List.forall_mem_map, Table.dropBlanks]
  -- What is left to require of a column without blanks is what was required of the column itself.
  have hcolumn (c : Column) : (Nonblank c.dropBlanks.name ∧ Nonblank c.dropBlanks.type ∧
      c.dropBlanks.dropBlanks = c.dropBlanks) ↔ Nonblank c.name ∧ Nonblank c.type := by
    rw [c.dropBlanks_dropBlanks]
    constructor
    · rintro ⟨hn, ht, -⟩
      exact ⟨hn, ht⟩
    · rintro ⟨hn, ht⟩
      exact ⟨hn, ht, rfl⟩
  simp only [hcolumn]
  constructor
  · rintro ⟨hne, hd, ht⟩
    exact ⟨hne, ht, hd⟩
  · rintro ⟨hne, ht, hd⟩
    exact ⟨hne, hd, ht⟩

end Document

end SchemaWorkbench
