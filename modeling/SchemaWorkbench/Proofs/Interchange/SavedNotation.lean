import SchemaWorkbench.Proofs.Interchange.RoundTrip
import SchemaWorkbench.Proofs.Notation.Expressible

/-!
# Saving what the notation describes

A schema is saved as the text of its document, which opens an object and is therefore loaded as a
document. Import refuses tables without a name and columns without a type, and the notation can
write both: `table :` and `- a(,)`. Nothing else of a text is lost when its schema is saved, since
the notation has no blank column names, references or default values.

## Main results

* `Schema.load_interchangeText`: a saved schema is loaded as its document
* `Schema.load_interchangeText_iff`: the schemas without blanks that load as they were saved
* `Schema.load_interchangeText_parse_iff`: the texts whose schemas load as they were saved
-/

namespace SchemaWorkbench

/-! ## Loading a saved schema -/

/-- The text of a document opens an object. -/
theorem Document.looksLikeDocument_text (d : Document) : looksLikeDocument d.text = true := by
  rw [looksLikeDocument, text, Json.pretty, String.toList_ofList, toJson, Json.print]
  rfl

namespace Schema

/-- A saved schema is loaded as its document. -/
theorem load_interchangeText (s : Schema) : load s.interchangeText =
    (Import.document (Document.ofSchema s).toJson).map Document.tables := by
  rw [load, interchangeText, Document.looksLikeDocument_text, if_pos rfl, Document.ofText_text]

/-- A schema without blank references and default values is saved as it is. -/
theorem ofSchema_eq_of_dropBlanks {s : Schema}
    (hblanks : ∀ t ∈ s, ∀ c ∈ t.columns, c.dropBlanks = c) : Document.ofSchema s = ⟨s, none⟩ := by
  have htable {t : Table} (ht : t ∈ s) : t.dropBlanks = t := by
    have hcolumns : t.columns.map Column.dropBlanks = t.columns :=
      (List.map_congr_left (hblanks t ht)).trans t.columns.map_id
    rw [Table.dropBlanks, hcolumns]
  have htables : s.map Table.dropBlanks = s :=
    (List.map_congr_left fun _ ht => htable ht).trans s.map_id
  rw [Document.ofSchema, htables]

/-- **The schemas that load as they were saved.** A schema without blank references and default
values does so exactly when it has a table and all its names and types hold a character other than
whitespace. -/
theorem load_interchangeText_iff {s : Schema}
    (hblanks : ∀ t ∈ s, ∀ c ∈ t.columns, c.dropBlanks = c) : load s.interchangeText = .ok s ↔
      s ≠ [] ∧ ∀ t ∈ s, Nonblank t.name ∧ ∀ c ∈ t.columns, Nonblank c.name ∧ Nonblank c.type := by
  -- Loading drops the dialect, but the document that was saved has none.
  have hdocument : (Import.document (Document.toJson ⟨s, none⟩)).map Document.tables = .ok s ↔
      Import.document (Document.toJson ⟨s, none⟩) = .ok ⟨s, none⟩ := by
    rw [map_eq_ok_iff]
    constructor
    · rintro ⟨⟨tables, dialect⟩, hd, rfl⟩
      have hdialect : dialect = none := (Import.document_eq_ok_iff.mp hd).2.1
      rw [hd, hdialect]
    · exact fun hd => ⟨_, hd, rfl⟩
  rw [load_interchangeText, ofSchema_eq_of_dropBlanks hblanks, hdocument,
    Document.document_toJson_iff]
  constructor
  · rintro ⟨hne, -, hall⟩
    refine ⟨hne, fun t ht => ⟨(hall t ht).1, fun c hc => ?_⟩⟩
    obtain ⟨hname, htype, -⟩ := (hall t ht).2 c hc
    exact ⟨hname, htype⟩
  · rintro ⟨hne, hall⟩
    refine ⟨hne, nofun, fun t ht => ⟨(hall t ht).1, fun c hc => ?_⟩⟩
    obtain ⟨hname, htype⟩ := (hall t ht).2 c hc
    exact ⟨hname, htype, hblanks t ht c hc⟩

end Schema

/-! ## Saving a text of the notation -/

/-- A column of a text is saved as it is. -/
theorem Column.Expressible.dropBlanks_eq {c : Column} (hc : c.Expressible) : c.dropBlanks = c :=
  Column.dropBlanks_eq_self_iff.mpr ⟨hc.reference, hc.defaultValue⟩

/-- What is empty or not blank is not blank when it is not empty. -/
theorem nonblank_iff_ne_empty {s : String} (h : s = "" ∨ Nonblank s) : Nonblank s ↔ s ≠ "" := by
  have hempty : ¬ Nonblank "" := by decide
  constructor
  · rintro hs rfl
    exact hempty hs
  · exact h.resolve_left

/-- **The texts whose schemas load as they were saved** are those that have a table, and neither a
table without a name nor a column without a type. -/
theorem Schema.load_interchangeText_parse_iff (text : String) :
    load (parse text).interchangeText = .ok (parse text) ↔
      parse text ≠ [] ∧ ∀ t ∈ parse text, t.name ≠ "" ∧ ∀ c ∈ t.columns, c.type ≠ "" := by
  have hexpressible {t : Table} (ht : t ∈ parse text) {c : Column} (hc : c ∈ t.columns) :
      c.Expressible := (expressible_of_mem_parse ht).columns c hc
  rw [load_interchangeText_iff fun t ht c hc => (hexpressible ht hc).dropBlanks_eq]
  -- The notation trims names and types, so that one that is blank is empty.
  refine and_congr_right' (forall₂_congr fun t ht => ?_)
  rw [nonblank_iff_ne_empty (expressible_of_mem_parse ht).name]
  refine and_congr_right' (forall₂_congr fun c hc => ?_)
  rw [nonblank_iff_ne_empty (hexpressible ht hc).type, and_iff_right (hexpressible ht hc).name]

/-- A table without a name and a column without a type are refused once they are saved, so that not
every schema of the notation loads as it was saved. -/
theorem Schema.saved_text_refused :
    (parse "table :" ≠ [] ∧ load (parse "table :").interchangeText = .error (.invalidTable 0)) ∧
      (parse "table x\n- a(,)" ≠ [] ∧
        load (parse "table x\n- a(,)").interchangeText = .error (.incompleteColumn "x" 0)) ∧
      ¬ ∀ text, parse text ≠ [] → load (parse text).interchangeText = .ok (parse text) := by
  have hname : load (parse "table :").interchangeText = .error (.invalidTable 0) := by
    rw [load_interchangeText]
    rfl
  have htype : load (parse "table x\n- a(,)").interchangeText =
      .error (.incompleteColumn "x" 0) := by
    rw [load_interchangeText]
    rfl
  refine ⟨⟨by decide, hname⟩, ⟨by decide, htype⟩, fun h => ?_⟩
  have hload := hname.symm.trans (h "table :" (by decide))
  simp only [reduceCtorEq] at hload

end SchemaWorkbench
