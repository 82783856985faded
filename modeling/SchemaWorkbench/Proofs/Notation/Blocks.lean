import SchemaWorkbench.Proofs.Notation.Occurrence
import SchemaWorkbench.Proofs.Notation.Segments

/-!
# The blocks of a text

The lines of a text are some lines before the first header, and blocks after them: a header with the
lines up to the next one. Each block is a table. Nothing is lost, since a block has every line up to
the next header, nothing is read twice, since the blocks follow one another, and no column goes to
another table than that of its block.

What the tables are made of is tidy, whatever the text holds: the parser cuts names and values out
of trimmed lines and items, and trims them again.

## Main definitions

* `Notation.Block`: a header with the lines up to the next one
* `Notation.Block.table`: the table of a block
* `Column.Tidy`, `Table.Tidy`: the shape of names and values

## Main results

* `Notation.exists_blocks`: lines are cut into blocks
* `Notation.segments_append_blocks`: the tables of lines that are cut into blocks
* `Notation.tidy_of_mem_segments`: the shape of names and values
* `parse_blocks`: the tables of a text
-/

namespace SchemaWorkbench

open Text

namespace Notation

/-! ## Blocks -/

/-- A header with the lines up to the next one. -/
structure Block where
  header : List Char
  name : List Char
  body : List (List Char)
  header?_header : header? header = some name
  header?_body : ∀ line ∈ body, header? line = none

namespace Block

/-- The lines of the block. -/
def lines (b : Block) : List (List Char) :=
  b.header :: b.body

/-- The table of the block: it has the name in the header and the columns of the other lines. -/
def table (b : Block) : Table where
  name := String.ofList b.name
  columns := b.body.filterMap columnLine?
  relations := []

end Block

section

variable {leading : List (List Char)}

/-- Lines are cut into blocks, after those before the first header. -/
theorem exists_blocks (lines : List (List Char)) :
    ∃ (leading : List (List Char)) (blocks : List Block),
      lines = leading ++ blocks.flatMap Block.lines ∧ ∀ line ∈ leading, header? line = none := by
  induction lines with
  | nil => exact ⟨[], [], rfl, by simp⟩
  | cons line lines ih =>
    obtain ⟨leading, blocks, rfl, hleading⟩ := ih
    cases h : header? line with
    | none => exact ⟨line :: leading, blocks, rfl, List.forall_mem_cons.mpr ⟨h, hleading⟩⟩
    | some name => exact ⟨[], ⟨line, name, leading, h, hleading⟩ :: blocks, rfl, by simp⟩

/-- The headers among the lines are those of the blocks. -/
theorem filter_header?_append_blocks (hleading : ∀ line ∈ leading, header? line = none)
    (blocks : List Block) :
    (leading ++ blocks.flatMap Block.lines).filter (fun line => (header? line).isSome) =
      blocks.map Block.header := by
  have hnone {ls : List (List Char)} (h : ∀ line ∈ ls, header? line = none) :
      ls.filter (fun line => (header? line).isSome) = [] :=
    List.filter_eq_nil_iff.mpr fun line hline => by simp [h line hline]
  rw [List.filter_append, hnone hleading, List.nil_append]
  induction blocks with
  | nil => rfl
  | cons b blocks ih =>
    rw [List.flatMap_cons, List.filter_append, ih, Block.lines,
      List.filter_cons_of_pos (by rw [b.header?_header]; rfl), hnone b.header?_body]
    rfl

/-- Of lines that are cut into blocks, those before the first header describe the leading
columns. -/
theorem leadingColumns_append_blocks (hleading : ∀ line ∈ leading, header? line = none)
    (blocks : List Block) :
    leadingColumns (leading ++ blocks.flatMap Block.lines) = leading.filterMap columnLine? := by
  rw [leadingColumns, List.takeWhile_append_of_pos fun line hline => by simp [hleading line hline]]
  cases blocks with
  | nil => rw [List.flatMap_nil, List.takeWhile_nil, List.append_nil]
  | cons b blocks =>
    rw [List.flatMap_cons, Block.lines, List.cons_append,
      List.takeWhile_cons_of_neg (by simp [b.header?_header]), List.append_nil]

theorem segments_append_of_not_header (hleading : ∀ line ∈ leading, header? line = none)
    (lines : List (List Char)) : segments (leading ++ lines) = segments lines := by
  induction leading with
  | nil => rfl
  | cons line leading ih =>
    rw [List.forall_mem_cons] at hleading
    rw [List.cons_append, segments_of_not_header hleading.1, ih hleading.2]

/-- **The tables of lines that are cut into blocks** are those of the blocks. -/
theorem segments_append_blocks (hleading : ∀ line ∈ leading, header? line = none)
    (blocks : List Block) :
    segments (leading ++ blocks.flatMap Block.lines) = blocks.map Block.table := by
  rw [segments_append_of_not_header hleading]
  induction blocks with
  | nil => rfl
  | cons b blocks ih =>
    rw [List.flatMap_cons, Block.lines, List.cons_append, segments_of_header b.header?_header,
      leadingColumns_append_blocks b.header?_body, segments_append_of_not_header b.header?_body, ih]
    rfl

end

end Notation

/-! ## The shape of names and values -/

/-- The name of the column is a word of ASCII characters, and its values are trimmed. -/
structure Column.Tidy (c : Column) : Prop where
  name_ne_empty : c.name ≠ ""
  name_word : ∀ ch ∈ c.name.toList, ch.isAlphanum ∨ ch = '_'
  reference : ∀ s ∈ c.reference, s ≠ "" ∧ trim s.toList = s.toList
  defaultValue : ∀ s ∈ c.defaultValue, s ≠ "" ∧ trim s.toList = s.toList

/-- The name of the table is trimmed and stands on one line, and its columns are tidy. -/
structure Table.Tidy (t : Table) : Prop where
  trim_name : trim t.name.toList = t.name.toList
  feed_notMem_name : '\n' ∉ t.name.toList
  columns : ∀ c ∈ t.columns, c.Tidy

namespace Notation

theorem trim_of_header? {line name : List Char} (h : header? line = some name) :
    trim name = name := by
  rw [header?] at h
  split at h
  · rw [← Option.some.inj h, trim_trim]
  · contradiction

/-- The name in a header is a part of it. -/
theorem sublist_of_header? {line name : List Char} (h : header? line = some name) :
    name.Sublist line := by
  have hcolon (cs : List Char) : (dropColon cs).Sublist cs := by
    rw [dropColon]
    split
    · exact List.dropLast_sublist cs
    · exact List.Sublist.refl cs
  rw [header?] at h
  split at h
  · have hrest : (trim ((trim line).drop 5)).Sublist line :=
      (trim_sublist _).trans ((List.drop_sublist _ _).trans (trim_sublist line))
    rw [← Option.some.inj h]
    exact (trim_sublist _).trans ((hcolon _).trans hrest)
  · contradiction

/-- The value after a flag is trimmed and not empty. -/
theorem tidy_of_flagValue? {flags : List (List Char)} {starts : List String} {value : String}
    (h : flagValue? flags starts = some value) :
    value ≠ "" ∧ trim value.toList = value.toList := by
  obtain ⟨flag, -, h⟩ := Option.bind_eq_some_iff.mp h
  obtain ⟨⟨before, after⟩, -, h⟩ := Option.bind_eq_some_iff.mp h
  dsimp only at h
  split at h
  · contradiction
  · rename_i hne
    cases h
    rw [String.toList_ofList, trim_trim]
    exact ⟨fun hempty => hne (String.ofList_injective hempty), rfl⟩

theorem tidy_normalizeDefault {value : String}
    (h : value ≠ "" ∧ trim value.toList = value.toList) :
    normalizeDefault value ≠ "" ∧
      trim (normalizeDefault value).toList = (normalizeDefault value).toList := by
  rw [normalizeDefault]
  split
  · decide
  · exact h

theorem tidy_of_columnLine? {line : List Char} {c : Column} (h : columnLine? line = some c) :
    c.Tidy := by
  rw [columnLine?] at h
  split at h
  · obtain ⟨g, hg, rfl⟩ := Option.map_eq_some_iff.mp h
    obtain ⟨o, -, rfl⟩ := Group.exists_isLeftmost_of_find? hg
    exact
      { name_ne_empty := fun hempty => o.name_ne_nil (String.ofList_injective hempty)
        name_word := fun ch hch => by
          have hmem : ch ∈ o.name := by
            simpa [Group.column, columnOf, Group.Occurrence.group] using hch
          simpa [isWordChar] using o.name_word ch hmem
        reference := fun s hs => tidy_of_flagValue? hs
        defaultValue := fun s hs => by
          obtain ⟨value, hvalue, rfl⟩ := Option.map_eq_some_iff.mp hs
          exact tidy_normalizeDefault (tidy_of_flagValue? hvalue) }
  · contradiction

/-- **The shape of names and values** in the tables of lines without line feeds. -/
theorem tidy_of_mem_segments {lines : List (List Char)} (hlines : ∀ line ∈ lines, '\n' ∉ line)
    {t : Table} (ht : t ∈ segments lines) : t.Tidy := by
  obtain ⟨⟨line, hline, hname⟩, hcolumns⟩ := exists_line_of_mem_segments ht
  obtain ⟨name, hheader, hname⟩ := Option.map_eq_some_iff.mp hname
  have hname : t.name.toList = name := by rw [← hname, String.toList_ofList]
  exact
    { trim_name := by rw [hname, trim_of_header? hheader]
      feed_notMem_name := by
        rw [hname]
        exact fun hfeed => hlines line hline ((sublist_of_header? hheader).mem hfeed)
      columns := fun c hc => by
        obtain ⟨line, -, hcolumn⟩ := hcolumns c hc
        exact tidy_of_columnLine? hcolumn }

end Notation

open Notation

/-- **The tables of a text** are its blocks, in their order: the lines are some lines before the
first header, and then blocks, each with one of the headers. The table of a block has the name in
that header, the columns that the other lines of the block describe, and no relations. All names and
values are tidy. -/
theorem parse_blocks (text : String) :
    (∃ (leading : List (List Char)) (blocks : List Block),
      lines text.toList = leading ++ blocks.flatMap Block.lines ∧
      (∀ line ∈ leading, header? line = none) ∧
      blocks.map Block.header =
        (lines text.toList).filter (fun line => (header? line).isSome) ∧
      parse text = blocks.map Block.table) ∧
    ∀ t ∈ parse text, t.Tidy := by
  obtain ⟨leading, blocks, hlines, hleading⟩ := exists_blocks (lines text.toList)
  refine ⟨⟨leading, blocks, hlines, hleading, ?_, ?_⟩, fun t ht => ?_⟩
  · rw [hlines, filter_header?_append_blocks hleading]
  · rw [parse_eq_segments, hlines, segments_append_blocks hleading]
  · rw [parse_eq_segments] at ht
    exact tidy_of_mem_segments feed_notMem_of_mem_lines ht

/-- A column before the first header, a table without columns, two tables of one name, and a line
that is neither a header nor a column. -/
theorem blocks_of_one_name :
    ∃ t ∈ parse "- lost(INT)\ntable a\nTABLE a : \n- x_1(date, default: now )\nnotes\n- y(INT)",
      t.columns.map Column.name = ["x_1", "y"] ∧ t.Tidy := by
  let text := "- lost(INT)\ntable a\nTABLE a : \n- x_1(date, default: now )\nnotes\n- y(INT)"
  let t : Table :=
    { name := "a"
      columns :=
        [{ name := "x_1", type := "DATETIME", defaultValue := some "CURRENT_TIMESTAMP" },
         { name := "y", type := "INT" }] }
  have hmem : t ∈ parse text := by
    have hparse : parse text = [{ name := "a" }, t] := by decide +kernel
    rw [hparse]
    exact List.mem_cons_of_mem _ List.mem_cons_self
  exact ⟨t, hmem, rfl, (parse_blocks text).2 t hmem⟩

end SchemaWorkbench
