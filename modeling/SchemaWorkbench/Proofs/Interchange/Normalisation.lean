import SchemaWorkbench.Proofs.Interchange.FirstError
import SchemaWorkbench.Proofs.Interchange.SavedNotation

/-!
# Import as a normalisation

Import accepts many ways of writing one schema: flags by values of any kind, blank or misshapen
texts where none is meant, null in place of relations, members that nobody asks for. What it gives
is always complete and free of blank texts, and on such documents writing and importing are inverse
to each other, so that a second import changes nothing any more.

Compared with the faithful reader, import only leaves blank texts out. It may refuse a document that
the faithful reader reads, but for what is missing in it and never for how it is written, since
relations, the only part with a grammar of their own, are read alike by both.

## Main results

* `Import.complete_of_document`: what import gives is complete and free of blank texts
* `Document.ofText_fixed_point`: an imported document is imported from its own text without a change
* `Import.not_json_of_ofJson`: what the faithful reader reads is not refused for its shape
* `Document.ofText_of_ofJson`: import of what the faithful reader reads
-/

namespace SchemaWorkbench

open Json

/-! ## What import gives -/

namespace Import

variable {v : Json}

theorem nonblank_of_text? {key : String} : ∀ s ∈ text? key v, Nonblank s :=
  fun _ hs => (text?_eq_some_iff.mp hs).2

theorem complete_of_column? {c : Column} (h : column? v = some c) :
    (Nonblank c.name ∧ Nonblank c.type) ∧ c.dropBlanks = c := by
  obtain ⟨hname, htype, -, -, -, -, hdefault, hreference⟩ := column?_eq_some_iff.mp h
  refine ⟨⟨nonblank_of_text? _ hname, nonblank_of_text? _ htype⟩, ?_⟩
  rw [Column.dropBlanks_eq_self_iff, ← hdefault, ← hreference]
  exact ⟨nonblank_of_text?, nonblank_of_text?⟩

theorem complete_of_describes {t : Table} (h : Describes v t) :
    t.Complete ∧ ∀ c ∈ t.columns, c.dropBlanks = c := by
  obtain ⟨hname, ⟨items, -, hcolumns⟩, -⟩ := h
  have hread (c : Column) (hc : c ∈ t.columns) : ∃ w, column? w = some c := by
    obtain ⟨w, -, hw⟩ := (exists_mem_of_forall₂ hcolumns).2 c hc
    exact ⟨w, hw⟩
  refine ⟨⟨nonblank_of_text? _ hname, fun c hc => ?_⟩, fun c hc => ?_⟩
  · obtain ⟨w, hw⟩ := hread c hc
    exact (complete_of_column? hw).1
  · obtain ⟨w, hw⟩ := hread c hc
    exact (complete_of_column? hw).2

/-- **What import gives** is complete, and nothing in it is blank that may as well be missing. -/
theorem complete_of_document {d : Document} (h : document v = .ok d) :
    d.Complete ∧ d.dropBlanks = d := by
  obtain ⟨hne, hdialect, items, -, htables⟩ := document_eq_ok_iff.mp h
  have hread (t : Table) (ht : t ∈ d.tables) : ∃ w, Describes w t := by
    obtain ⟨w, -, hw⟩ := (exists_mem_of_forall₂ htables).2 t ht
    exact ⟨w, hw⟩
  refine ⟨⟨hne, fun t ht => ?_⟩, Document.dropBlanks_eq_self_iff.mpr ⟨?_, fun t ht => ?_⟩⟩
  · obtain ⟨w, hw⟩ := hread t ht
    exact (complete_of_describes hw).1
  · rw [hdialect]
    exact nonblank_of_text?
  · obtain ⟨w, hw⟩ := hread t ht
    exact (complete_of_describes hw).2

end Import

namespace Document

/-- **An imported document is a fixed point.** Its own text is imported as the same document, and
the text of its schema is loaded as the same schema, whose text is the same again. -/
theorem ofText_fixed_point {s : String} {d : Document} (h : ofText s = .ok d) :
    ofText d.text = .ok d ∧ Schema.load d.tables.interchangeText = .ok d.tables ∧
      (Schema.load d.tables.interchangeText).map Schema.interchangeText =
        .ok d.tables.interchangeText := by
  obtain ⟨v, hv⟩ : ∃ v, Import.document v = .ok d := by
    rw [ofText] at h
    split at h
    · contradiction
    · exact ⟨_, h⟩
  obtain ⟨hcomplete, hblanks⟩ := Import.complete_of_document hv
  have htext : ofText d.text = .ok d := by
    rw [ofText_text, document_toJson]
    exact ⟨hcomplete, hblanks.symm⟩
  have hload : Schema.load d.tables.interchangeText = .ok d.tables := by
    rw [Schema.load_interchangeText_iff (dropBlanks_eq_self_iff.mp hblanks).2]
    refine ⟨hcomplete.nonempty, fun t ht => ?_⟩
    exact ⟨(hcomplete.tables t ht).name, (hcomplete.tables t ht).columns⟩
  refine ⟨htext, hload, ?_⟩
  rw [hload]
  rfl

/-- A document with flags of several kinds, a blank reference, a default value and a dialect that
are no texts, and no relations. -/
theorem odd_document_imported_again :
    let column := Json.obj [("name", .str "x"), ("type", .str "INT"), ("primaryKey", .str "yes"),
      ("required", .arr []), ("unique", .str ""), ("reference", .str " "),
      ("defaultValue", .bool true)]
    let table := Json.obj [("name", .str "a"), ("columns", .arr [column]), ("relations", .null)]
    let v := Json.obj [("dialect", .bool false), ("tables", .arr [table])]
    let d : Document := { tables := [{ name := "a", columns :=
      [{ name := "x", type := "INT", primaryKey := true, required := true }] }] }
    ofText v.compact = .ok d ∧ ofText d.text = .ok d := by
  intro column table v d
  have hplain : Plain nestingLimit v := by
    have hcolumn : Plain 123 column :=
      .obj (by simp [Plain.str, Plain.bool, Plain.arr])
    have htable : Plain 125 table := .obj (by simpa [Plain.str, Plain.null] using .arr (by simpa))
    exact .obj (by simpa [Plain.bool] using .arr (by simpa))
  have himport : ofText v.compact = .ok d := by
    rw [ofText, read_compact hplain]
    rfl
  exact ⟨himport, (ofText_fixed_point himport).1⟩

end Document

/-! ## Import and the faithful reader -/

namespace Import

variable {v : Json} {d : Document}

/-- What the faithful reader reads is not refused for its shape. -/
theorem not_json_of_ofJson (hv : DocumentObject v) (hd : Document.ofJson v = .ok d)
    {cause : Json.Error} : document v ≠ .error (.json cause) := by
  intro h
  obtain ⟨⟨items, hitems, hread⟩, -⟩ := document_members hv.isObject hd
  cases items with
  | nil =>
    -- Without tables the document is refused for want of them.
    have hnone : document v = .error .noTables :=
      document_eq_noTables_iff.mpr (by rintro ⟨item, items, h⟩; simp [hitems] at h)
    cases hnone.symm.trans h
  | cons item items =>
    obtain ⟨i, w, ⟨before, after, hw, -⟩, hfault⟩ := (document_eq_error_iff hitems).mp h
    have hmem : w ∈ item :: items := by simp [hw]
    obtain ⟨t, -, ht⟩ := (exists_mem_of_forall₂ hread).1 w hmem
    cases hfault with
    | relations _ _ hbroken =>
      -- The faithful reader has read the relations of this table, and so does import.
      have hrelations := (table_members (hv.tables _ hitems w hmem).isObject ht).2.2
      have herror := relations_eq_error_iff.mpr ⟨_, hbroken, rfl⟩
      rw [hrelations] at herror
      contradiction

end Import

namespace Document

/-- **Import of what the faithful reader reads.** A document that is written as objects and that the
faithful reader reads is imported without its blank texts if it has a table and no name and no type
in it is blank; otherwise it is refused for want of tables, for a table or for a column. -/
theorem ofText_of_ofJson {s : String} {v : Json} {d : Document} (hread : Json.read s = .ok v)
    (hv : Import.DocumentObject v) (hd : ofJson v = .ok d) :
    (d.Complete → ofText s = .ok d.dropBlanks) ∧
      (¬ d.Complete → ofText s = .error .noTables ∨ (∃ i, ofText s = .error (.invalidTable i)) ∨
        ∃ name i, ofText s = .error (.incompleteColumn name i)) := by
  have hdocument : ofText s = Import.document v := by rw [ofText, hread]
  rw [hdocument]
  refine ⟨fun hcomplete => (Import.document_iff_of_ofJson hv hd).mpr ⟨hcomplete, rfl⟩, ?_⟩
  intro hincomplete
  have hrefused (d' : Document) : Import.document v ≠ .ok d' :=
    fun h => hincomplete ((Import.document_iff_of_ofJson hv hd).mp h).1
  cases h : Import.document v with
  | ok d' => exact absurd h (hrefused d')
  | error e =>
    cases e with
    | noTables => exact .inl rfl
    | invalidTable i => exact .inr (.inl ⟨i, rfl⟩)
    | incompleteColumn name i => exact .inr (.inr ⟨name, i, rfl⟩)
    | json cause => exact absurd h (Import.not_json_of_ofJson hv hd)

/-- A document with a repeated key, unknown members, a relation that is written as an array, a blank
default value and a blank dialect is imported without its blank texts if its column has a type, and
otherwise refused. -/
theorem blank_texts_left_out :
    let column (type : String) := Json.obj [("name", .str "x"), ("type", .str type),
      ("required", .bool true), ("defaultValue", .str ""), ("reference", .str "b.y"),
      ("note", .null)]
    let link := Json.arr [.str "a", .str "x", .str "b", .str "y", .str "oneToMany"]
    let table (type : String) := Json.obj [("name", .str "old"), ("name", .str "a"),
      ("columns", .arr [column type]), ("relations", .arr [link])]
    let v (type : String) := Json.obj [("version", .str "2"), ("dialect", .str " "),
      ("tables", .arr [table type])]
    let schema (value : Option String) : Schema :=
      [{ name := "a"
         columns := [{ name := "x", type := "INT", required := true, defaultValue := value,
                       reference := some "b.y" }]
         relations := [⟨"a", "x", "b", "y", .oneToMany⟩] }]
    (ofJson (v "INT") = .ok ⟨schema (some ""), some " "⟩ ∧
        ofText (v "INT").compact = .ok ⟨schema none, none⟩) ∧
      ∃ d, ofJson (v "") = .ok d ∧ ¬ d.Complete ∧
        (ofText (v "").compact = .error .noTables ∨
          (∃ i, ofText (v "").compact = .error (.invalidTable i)) ∨
            ∃ name i, ofText (v "").compact = .error (.incompleteColumn name i)) := by
  intro column link table v schema
  have hread (type : String) : Json.read (v type).compact = .ok (v type) := by
    have hcolumn : Plain 123 (column type) := .obj (by simp [Plain.str, Plain.bool, Plain.null])
    have hlink : Plain 123 link := .arr (by simp [Plain.str])
    have htable : Plain 125 (table type) :=
      .obj (by simpa [Plain.str] using ⟨.arr (by simpa), .arr (by simpa)⟩)
    exact read_compact (.obj (by simpa [Plain.str] using .arr (by simpa)))
  have hobjects (type : String) : Import.DocumentObject (v type) := by
    have hcolumn : Import.ColumnObject (column type) := ⟨⟨_, rfl⟩, rfl⟩
    have htable : Import.TableObject (table type) := by
      refine ⟨⟨_, rfl⟩, fun items hitems => ?_⟩
      cases (rfl : (table type).member? "columns" = some (.arr [column type])).symm.trans hitems
      simpa
    refine ⟨⟨_, rfl⟩, fun items hitems => ?_⟩
    cases (rfl : (v type).member? "tables" = some (.arr [table type])).symm.trans hitems
    simpa
  refine ⟨⟨rfl, ?_⟩, _, rfl, ?_, ?_⟩
  · have hcomplete : Document.Complete ⟨schema (some ""), some " "⟩ := by
      refine ⟨by simp [schema], List.forall_mem_singleton.mpr ⟨by decide, ?_⟩⟩
      exact List.forall_mem_singleton.mpr (by decide)
    exact (ofText_of_ofJson (hread "INT") (hobjects "INT") rfl).1 hcomplete
  · intro hcomplete
    have htype := ((hcomplete.tables _ List.mem_cons_self).columns _ List.mem_cons_self).2
    exact absurd htype (by decide)
  · refine (ofText_of_ofJson (hread "") (hobjects "") rfl).2 fun hcomplete => ?_
    have htype := ((hcomplete.tables _ List.mem_cons_self).columns _ List.mem_cons_self).2
    exact absurd htype (by decide)

end Document

end SchemaWorkbench
