import SchemaWorkbench.Notation
import SchemaWorkbench.Proofs.Text.Blank

/-!
# A text as a sequence of segments

The headers of a text cut it into segments. The lines before the first header describe no table; a
header starts a table, whose columns are those that the lines up to the next header describe. So the
schema of a text can be read off its lines from the front, without the table that the parser keeps
open until the next header comes, and off the lines as they are: what the parser trims and leaves
out before it reads a line makes no difference.

## Main definitions

* `Table.addColumns`: a table with more columns, after the others
* `Notation.leadingColumns`: the columns that the lines before the first header describe
* `Notation.segments`: the tables that the headers start, each with the columns up to the next one

## Main results

* `Notation.readLine_trim_of_header`, `Notation.readLine_trim_of_not_header`: what the parser makes
  of one line
* `parse_eq_segments`: the schema of a text is made of the segments of its lines
* `Notation.exists_line_of_mem_segments`: every table has its header, and every column its line
-/

namespace SchemaWorkbench

open Text

/-- The table with more columns, after the others. -/
def Table.addColumns (t : Table) (cs : List Column) : Table :=
  { t with columns := t.columns ++ cs }

@[simp] theorem Table.addColumns_nil (t : Table) : t.addColumns [] = t := by
  simp [addColumns]

@[simp] theorem Table.addColumns_addColumns (t : Table) (cs cs' : List Column) :
    (t.addColumns cs).addColumns cs' = t.addColumns (cs ++ cs') := by
  simp [addColumns]

theorem Table.addColumns_singleton (t : Table) (c : Column) : t.addColumns [c] = t.addColumn c :=
  rfl

namespace Notation

/-- The columns that the lines before the first header describe. -/
def leadingColumns (lines : List (List Char)) : List Column :=
  (lines.takeWhile fun line => header? line = none).filterMap columnLine?

/-- The tables that the headers start, each with the columns up to the next header. -/
def segments : List (List Char) → Schema
  | [] => []
  | line :: lines =>
    match header? line with
    | some name => { name := String.ofList name, columns := leadingColumns lines } :: segments lines
    | none => segments lines

section

variable {line name : List Char}

theorem leadingColumns_of_header (h : header? line = some name) (lines : List (List Char)) :
    leadingColumns (line :: lines) = [] := by
  simp [leadingColumns, h]

theorem leadingColumns_of_not_header (h : header? line = none) (lines : List (List Char)) :
    leadingColumns (line :: lines) = (columnLine? line).toList ++ leadingColumns lines := by
  rw [leadingColumns, List.takeWhile_cons_of_pos (by simp [h]), List.filterMap_cons]
  cases columnLine? line <;> rfl

theorem segments_of_header (h : header? line = some name) (lines : List (List Char)) :
    segments (line :: lines) =
      { name := String.ofList name, columns := leadingColumns lines } :: segments lines := by
  rw [segments, h]

theorem segments_of_not_header (h : header? line = none) (lines : List (List Char)) :
    segments (line :: lines) = segments lines := by
  rw [segments, h]

/-! ## What the parser makes of one line -/

@[simp] theorem header?_trim (line : List Char) : header? (trim line) = header? line := by
  rw [header?, header?, trim_trim]

@[simp] theorem columnLine?_trim (line : List Char) :
    columnLine? (trim line) = columnLine? line := by
  rw [columnLine?, columnLine?, trim_trim]

/-- A line that describes a column starts with a dash, once it is trimmed. -/
theorem head?_trim_of_columnLine? {c : Column} (h : columnLine? line = some c) :
    (trim line).head? = some '-' := by
  rw [columnLine?] at h
  split at h
  · rename_i hdash
    rw [hdash, List.head?_cons]
  · contradiction

/-- A header completes the table that is open and opens another. -/
theorem readLine_trim_of_header (h : header? line = some name) (state : Schema × Option Table) :
    readLine state (trim line) =
      (state.1 ++ state.2.toList, some { name := String.ofList name }) := by
  rw [readLine, header?_trim, h]

/-- Any other line adds its column, if it describes one, to the table that is open, if one is. -/
theorem readLine_trim_of_not_header (h : header? line = none) (state : Schema × Option Table) :
    readLine state (trim line) =
      (state.1, state.2.map (·.addColumns (columnLine? line).toList)) := by
  obtain ⟨complete, open?⟩ := state
  rw [readLine, header?_trim, columnLine?_trim, h]
  cases hcolumn : columnLine? line with
  | none => cases open? <;> simp
  | some c =>
    rw [if_pos (head?_trim_of_columnLine? hcolumn)]
    cases open? <;> simp [Table.addColumns_singleton]

end

/-! ## The schema of the lines -/

/-- From any state the parser adds the columns before the first header to the table that is open and
goes on with the segments. -/
theorem foldl_readLine_trim (lines : List (List Char)) (state : Schema × Option Table) :
    ((lines.map trim).foldl readLine state).1 ++
        ((lines.map trim).foldl readLine state).2.toList =
      state.1 ++ (state.2.map (·.addColumns (leadingColumns lines))).toList ++ segments lines := by
  induction lines generalizing state with
  | nil => simp [leadingColumns, segments]
  | cons line lines ih =>
    rw [List.map_cons, List.foldl_cons, ih]
    cases h : header? line with
    | some name =>
      rw [readLine_trim_of_header h, leadingColumns_of_header h, segments_of_header h]
      simp [Table.addColumns]
    | none =>
      rw [readLine_trim_of_not_header h, leadingColumns_of_not_header h, segments_of_not_header h]
      simp [Function.comp_def]

/-- The parser ignores empty lines, whether they are left out before or not. -/
theorem foldl_readLine_filter (lines : List (List Char)) (state : Schema × Option Table) :
    (lines.filter (· ≠ [])).foldl readLine state = lines.foldl readLine state := by
  have hempty (state : Schema × Option Table) : readLine state [] = state := rfl
  rw [List.foldl_filter]
  refine congrArg (fun f => lines.foldl f state) (funext₂ fun state line => ?_)
  by_cases h : line = []
  · simp [h, hempty]
  · simp [h]

end Notation

/-- **The schema of a text is made of the segments of its lines.** -/
theorem parse_eq_segments (text : String) :
    parse text = Notation.segments (lines text.toList) := by
  have h := Notation.foldl_readLine_trim (lines text.toList) ([], none)
  rw [Option.map_none, Option.toList_none, List.append_nil, List.nil_append] at h
  rw [parse, Notation.schemaOf, Notation.foldl_readLine_filter]
  exact h

namespace Notation

theorem exists_line_of_mem_leadingColumns {lines : List (List Char)} {c : Column}
    (hc : c ∈ leadingColumns lines) : ∃ line ∈ lines, columnLine? line = some c := by
  obtain ⟨line, hline, hcolumn⟩ := List.mem_filterMap.mp hc
  exact ⟨line, (List.takeWhile_sublist _).mem hline, hcolumn⟩

/-- Every table has its header among the lines, and every column its line. -/
theorem exists_line_of_mem_segments {lines : List (List Char)} {t : Table}
    (ht : t ∈ segments lines) :
    (∃ line ∈ lines, (header? line).map String.ofList = some t.name) ∧
      ∀ c ∈ t.columns, ∃ line ∈ lines, columnLine? line = some c := by
  induction lines with
  | nil => contradiction
  | cons line lines ih =>
    -- A table is that of the first line, or it is one of the lines after it.
    have hcases : t ∈ segments lines ∨ ∃ name, header? line = some name ∧
        t = { name := String.ofList name, columns := leadingColumns lines } := by
      cases h : header? line with
      | some name => simpa [segments_of_header h, or_comm] using ht
      | none => exact .inl (by rwa [segments_of_not_header h] at ht)
    rcases hcases with ht | ⟨name, h, rfl⟩
    · obtain ⟨⟨l, hl, hname⟩, hcolumns⟩ := ih ht
      refine ⟨⟨l, List.mem_cons_of_mem _ hl, hname⟩, fun c hc => ?_⟩
      obtain ⟨l, hl, hcolumn⟩ := hcolumns c hc
      exact ⟨l, List.mem_cons_of_mem _ hl, hcolumn⟩
    · refine ⟨⟨line, List.mem_cons_self, by rw [h]; rfl⟩, fun c hc => ?_⟩
      obtain ⟨l, hl, hcolumn⟩ := exists_line_of_mem_leadingColumns hc
      exact ⟨l, List.mem_cons_of_mem _ hl, hcolumn⟩

end Notation

end SchemaWorkbench
