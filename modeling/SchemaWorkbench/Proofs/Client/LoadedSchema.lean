import SchemaWorkbench.Export.Format
import SchemaWorkbench.Proofs.Client.Questions
import SchemaWorkbench.Proofs.Interchange.Normalisation

/-!
# The schema of a text, written for the service and for a file

The document of a schema leaves blank references and default values out; a request for SQL has the
schema as it is. For a schema that was loaded from a text there is no difference: neither of the two
front ends gives a blank value. The notation takes a value from what follows a flag, trimmed and
only if something is left, and import takes texts only that are not blank.

## Main results

* `Schema.dropBlanks_of_load`: the values of a loaded schema are not blank
* `Schema.document_and_request_agree`: a document and a request have the same tables in them
-/

namespace SchemaWorkbench

open Export (Format)

namespace Schema

variable {text : String} {s : Schema}

/-- The values of a loaded schema are not blank, whichever of the front ends has read it. -/
theorem dropBlanks_of_load (hload : load text = .ok s) :
    ∀ t ∈ s, ∀ c ∈ t.columns, c.dropBlanks = c := by
  rw [load] at hload
  split at hload
  · obtain ⟨d, hd, rfl⟩ := map_eq_ok_iff.mp hload
    obtain ⟨v, -, hv⟩ := Document.ofText_eq_ok_iff.mp hd
    exact (Document.dropBlanks_eq_self_iff.mp (Import.complete_of_document hv).2).2
  · cases hload
    exact fun t ht c hc => ((expressible_of_mem_parse ht).columns c hc).dropBlanks_eq

/-- **A document and a request have the same tables in them.** No reference and no default value of
a schema that was loaded from a text is blank. Its document therefore has the schema as it is, and
what can be read back from the exported text has under the key of the tables the very value that
the one request for SQL has there, whatever the client and the dialect. -/
theorem document_and_request_agree (hload : load text = .ok s) :
    (∀ t ∈ s, ∀ c ∈ t.columns, (∀ value ∈ c.reference, Nonblank value) ∧
        ∀ value ∈ c.defaultValue, Nonblank value) ∧
      (Document.ofSchema s).tables = s ∧
      ∃ exported v tables, Format.json.render? s = some exported ∧ Json.read exported = .ok v ∧
        v.member? "tables" = some tables ∧
        ∀ (client : Client) (d : Dialect), ∃ r, (client.generate s d).Sends [r] ∧
          r.body.member? "tables" = some tables := by
  have hblanks := dropBlanks_of_load hload
  have hdocument : Document.ofSchema s = ⟨s, none⟩ := ofSchema_eq_of_dropBlanks hblanks
  refine ⟨fun t ht c hc => Column.dropBlanks_eq_self_iff.mp (hblanks t ht c hc), ?_, ?_⟩
  · rw [hdocument]
  · refine ⟨s.interchangeText, _, s.toJson, rfl, (Document.ofSchema s).read_text, ?_, ?_⟩
    · rw [hdocument]
      rfl
    · intro client d
      exact ⟨_, client.sends_generate s d, rfl⟩

/-- A table with a reference and a default value, which the notation calls by another name. -/
theorem loaded_table_agrees :
    let text := "table a:\n- x(entier, référence: b.y, par défaut: maintenant)"
    let column : Column :=
      { name := "x", type := "INT", reference := some "b.y",
        defaultValue := some "CURRENT_TIMESTAMP" }
    let s : Schema := [{ name := "a", columns := [column] }]
    load text = .ok s ∧ (Document.ofSchema s).tables = s ∧
      ∃ exported v tables r, Format.json.render? s = some exported ∧ Json.read exported = .ok v ∧
        v.member? "tables" = some tables ∧
          ((Client.ofUrl "https://a/").generate s .sqlite).Sends [r] ∧
          r.body.member? "tables" = some tables := by
  intro text column s
  have hload : load text = .ok s := by
    have hnotation : looksLikeDocument text = false := by decide +kernel
    have hparse : parse text = s := by decide +kernel
    rw [load, hnotation, hparse]
    rfl
  obtain ⟨-, htables, exported, v, tables, hexported, hv, hmember, hsent⟩ :=
    document_and_request_agree hload
  obtain ⟨r, hsends, hsame⟩ := hsent (Client.ofUrl "https://a/") .sqlite
  exact ⟨hload, htables, exported, v, tables, r, hexported, hv, hmember, hsends, hsame⟩

end Schema

end SchemaWorkbench
