import Mathlib.Data.List.ModifyLast
import SchemaWorkbench.Proofs.Notation.Segments
import SchemaWorkbench.Proofs.Session.Commit

/-!
# Editing line by line

A session that is given the lines of a text one by one ends with the tables of the text after its
own, as if the text had been appended at once. The one difference is what comes before the first
header: on its own a text drops these columns, while in a session they go to the last table that is
there.

## Main definitions

* `Schema.addColumns`: a schema with more columns in its last table
* `Edit.linesOf`: the lines of a text as edits

## Main results

* `Session.tables_line_of_header`, `Session.tables_line_of_not_header`: what one line does
* `Session.tables_applyAll_lines`: what a sequence of lines does
* `Session.tables_applyAll_linesOf`: editing line by line against reading the text at once
-/

namespace SchemaWorkbench

open Notation

/-! ## Columns for the last table -/

/-- The schema with more columns in its last table, if it has one. -/
def Schema.addColumns (s : Schema) (cs : List Column) : Schema :=
  s.modifyLast (·.addColumns cs)

namespace Schema

@[simp] theorem addColumns_empty (cs : List Column) : addColumns [] cs = [] := rfl

@[simp] theorem addColumns_concat (ts : Schema) (t : Table) (cs : List Column) :
    addColumns (ts ++ [t]) cs = ts ++ [t.addColumns cs] :=
  List.modifyLast_concat _ t ts

@[simp] theorem addColumns_nil (s : Schema) : s.addColumns [] = s := by
  rcases List.eq_nil_or_concat' s with rfl | ⟨ts, t, rfl⟩ <;> simp

@[simp] theorem addColumns_addColumns (s : Schema) (cs cs' : List Column) :
    (s.addColumns cs).addColumns cs' = s.addColumns (cs ++ cs') := by
  rcases List.eq_nil_or_concat' s with rfl | ⟨ts, t, rfl⟩ <;> simp

end Schema

/-- The lines of a text as edits, one after the other. -/
def Edit.linesOf (text : String) : List Edit :=
  (Text.lines text.toList).map fun line => .line (String.ofList line)

namespace Session

/-! ## One line -/

section

variable {line name : List Char}

/-- A header opens a table after the others. -/
theorem tables_line_of_header (h : header? line = some name) (s : Session) :
    (s.apply (.line (String.ofList line))).2.tables =
      s.tables ++ [{ name := String.ofList name }] := by
  rw [apply, applyLine, tableHeader?, String.toList_ofList, h]
  rfl

/-- Any other line adds its column, if it describes one, to the last table, if there is one. -/
theorem tables_line_of_not_header (h : header? line = none) (s : Session) :
    (s.apply (.line (String.ofList line))).2.tables =
      s.tables.addColumns (Notation.columnLine? line).toList := by
  obtain ⟨tables, history⟩ := s
  rw [apply, applyLine, tableHeader?, SchemaWorkbench.columnLine?, String.toList_ofList, h]
  rcases List.eq_nil_or_concat' tables with rfl | ⟨ts, t, rfl⟩
  · rfl
  · cases Notation.columnLine? line with
    | none => simp
    | some c => simp [commit, Table.addColumns_singleton]

end

/-! ## All lines -/

/-- **What a sequence of lines does to the tables**: the columns before the first header go to the
last table, and the tables of the segments come after it. -/
theorem tables_applyAll_lines (s : Session) (lines : List (List Char)) :
    (s.applyAll (lines.map fun line => .line (String.ofList line))).tables =
      s.tables.addColumns (leadingColumns lines) ++ segments lines := by
  induction lines generalizing s with
  | nil => simp [leadingColumns, segments]
  | cons line lines ih =>
    rw [List.map_cons, applyAll_cons, ih]
    cases h : header? line with
    | some name =>
      -- The lines up to the next header add to the table that was opened just now.
      rw [tables_line_of_header h, leadingColumns_of_header h, segments_of_header h]
      simp [Table.addColumns]
    | none =>
      rw [tables_line_of_not_header h, leadingColumns_of_not_header h, segments_of_not_header h]
      simp

theorem tables_append (s : Session) (text : String) :
    (s.append text).2.tables = s.tables ++ parse text := by
  rw [append]
  dsimp only
  split
  · rename_i hparse
    simp [hparse]
  · rfl

/-- **Editing line by line against reading the text at once.** The lines of a text, given to a
session one by one, leave the tables of the text after those of the session, the last of which has
got the columns that come before the first header of the text. So they leave just the tables of the
text where there were none before, and the same as appending the text where there were none or no
column comes before the first header. -/
theorem tables_applyAll_linesOf (s : Session) (text : String) :
    let leading := leadingColumns (Text.lines text.toList)
    let edited := s.applyAll (Edit.linesOf text)
    edited.tables = s.tables.addColumns leading ++ parse text ∧
      (s.tables = [] → edited.tables = parse text) ∧
      (s.tables = [] ∨ leading = [] → edited.tables = (s.append text).2.tables) := by
  intro leading edited
  have htables : edited.tables = s.tables.addColumns leading ++ parse text := by
    rw [parse_eq_segments]
    exact tables_applyAll_lines s _
  refine ⟨htables, fun hempty => ?_, fun hsame => ?_⟩
  · rw [htables, hempty]
    rfl
  · rw [htables, tables_append]
    rcases hsame with hempty | hleading
    · rw [hempty]
      rfl
    · rw [hleading, Schema.addColumns_nil]

/-- A session with a table is given a text of which the first line is no column, and then the text
with a column before it: the table gets the column. Without a table nothing gets it. -/
theorem lines_after_table :
    let s := start History.empty |>.addTable { name := "a" }
    let text := "hello\ntable b\n- x(entier)"
    let longer := "- y(entier)\nhello\ntable b\n- x(entier)"
    leadingColumns (Text.lines text.toList) = [] ∧
      (s.applyAll (Edit.linesOf text)).tables = (s.append text).2.tables ∧
      (s.applyAll (Edit.linesOf longer)).tables =
        [{ name := "a", columns := [{ name := "y", type := "INT" }] },
          { name := "b", columns := [{ name := "x", type := "INT" }] }] ∧
      ((start History.empty).applyAll (Edit.linesOf longer)).tables =
        ((start History.empty).append longer).2.tables := by
  intro s text longer
  have hnone : leadingColumns (Text.lines text.toList) = [] := by decide
  have hone : leadingColumns (Text.lines longer.toList) = [{ name := "y", type := "INT" }] := by
    decide +kernel
  have hparse : parse longer = [{ name := "b", columns := [{ name := "x", type := "INT" }] }] := by
    decide +kernel
  obtain ⟨-, -, hsame⟩ := tables_applyAll_linesOf s text
  obtain ⟨htables, -, -⟩ := tables_applyAll_linesOf s longer
  obtain ⟨-, -, hfirst⟩ := tables_applyAll_linesOf (start History.empty) longer
  rw [hone, hparse] at htables
  exact ⟨hnone, hsame (.inr hnone), htables, hfirst (.inl rfl)⟩

end Session

end SchemaWorkbench
