import Mathlib.Logic.Relation
import SchemaWorkbench.Proofs.Notation.Segments
import SchemaWorkbench.Proofs.Text.Padding

/-!
# Layout

What a text describes rests on the trimmed lines of it that are headers or describe a column. Line
endings of either kind, whitespace at the ends of lines and lines that say nothing can be put in and
taken out anywhere.

The line ending of a line is whitespace at its end, as far as reading goes: a carriage return before
a line feed is trimmed if it is not cut off before. So lines are taken as the pieces between line
feeds here, and the empty piece behind the last line feed is a line that says nothing.

## Main definitions

* `Notation.Tells`: the line is a header or describes a column
* `Notation.telling`: the lines of a text that say something, trimmed
* `Notation.LayoutEdit`: one change of the layout of a text

## Main results

* `parse_eq_segments_telling`: the schema of a text is made of the lines that say something
* `Notation.LayoutEdit.telling_eq`: one change of the layout keeps these lines
* `parse_eq_of_layout`: any number of changes keeps the schema
-/

namespace SchemaWorkbench

open Text

namespace Notation

/-! ## Lines that say something -/

/-- The line is a header, or it describes a column. -/
def Tells (line : List Char) : Prop :=
  header? line ≠ none ∨ columnLine? line ≠ none

instance (line : List Char) : Decidable (Tells line) :=
  inferInstanceAs (Decidable (_ ∨ _))

/-- The lines of a text that say something, trimmed. -/
def telling (cs : List Char) : List (List Char) :=
  ((pieces (· = '\n') cs).map trim).filter (fun line => Tells line)

theorem tells_trim (line : List Char) : Tells (trim line) ↔ Tells line := by
  rw [Tells, Tells, header?_trim, columnLine?_trim]

/-- Neither trimming nor leaving out lines that say nothing changes the columns and tables. -/
theorem segments_filter_map_trim (lines : List (List Char)) :
    leadingColumns ((lines.map trim).filter (fun line => Tells line)) = leadingColumns lines ∧
      segments ((lines.map trim).filter (fun line => Tells line)) = segments lines := by
  induction lines with
  | nil => exact ⟨rfl, rfl⟩
  | cons line lines ih =>
    obtain ⟨hcolumns, hsegments⟩ := ih
    rw [List.map_cons]
    cases hheader : header? line with
    | some name =>
      have htells : Tells line := .inl (by simp [hheader])
      have htrim : header? (trim line) = some name := by rw [header?_trim, hheader]
      rw [List.filter_cons_of_pos (by simpa using (tells_trim line).mpr htells),
        leadingColumns_of_header htrim, leadingColumns_of_header hheader,
        segments_of_header htrim, segments_of_header hheader, hcolumns, hsegments]
      exact ⟨rfl, rfl⟩
    | none =>
      have htrim : header? (trim line) = none := by rw [header?_trim, hheader]
      rw [leadingColumns_of_not_header hheader, segments_of_not_header hheader]
      by_cases htells : Tells line
      · rw [List.filter_cons_of_pos (by simpa using (tells_trim line).mpr htells),
          leadingColumns_of_not_header htrim, segments_of_not_header htrim, columnLine?_trim,
          hcolumns, hsegments]
        exact ⟨rfl, rfl⟩
      · have hcolumn : columnLine? line = none := by
          by_contra hcolumn
          exact htells (.inr hcolumn)
        rw [List.filter_cons_of_neg (by simpa using mt (tells_trim line).mp htells), hcolumn,
          hcolumns, hsegments]
        exact ⟨rfl, rfl⟩

/-- The lines of a text and the pieces between its line feeds say the same. -/
theorem telling_eq_lines (cs : List Char) :
    telling cs = ((lines cs).map trim).filter (fun line => Tells line) := by
  obtain ⟨rest, hrest, hpieces⟩ := exists_map_trim_pieces cs
  have hsilent : rest.filter (fun line => Tells line) = [] := by
    rcases hrest with rfl | rfl <;> decide
  rw [telling, hpieces, List.filter_append, hsilent, List.append_nil]

end Notation

open Notation

/-- **The schema of a text** is made of its lines that say something. -/
theorem parse_eq_segments_telling (text : String) :
    parse text = segments (telling text.toList) := by
  rw [parse_eq_segments, telling_eq_lines]
  exact (segments_filter_map_trim _).2.symm

namespace Notation

/-! ## Changes of the layout -/

/-- One change of the layout of a text. -/
inductive LayoutEdit : List Char → List Char → Prop
  /-- A line feed gets a carriage return. -/
  | carriageReturn (before after : List Char) :
      LayoutEdit (before ++ '\n' :: after) (before ++ '\r' :: '\n' :: after)
  /-- Whitespace is put at an end of a line. -/
  | pad {text text' : List Char} (h : Padding '\n' text text') : LayoutEdit text text'
  /-- A line that says nothing is put before another one. -/
  | lineBefore (before line after : List Char) (hbefore : StartsPiece '\n' before)
      (hfeed : '\n' ∉ line) (htells : ¬ Tells line) :
      LayoutEdit (before ++ after) (before ++ line ++ '\n' :: after)
  /-- A line that says nothing is put behind another one. -/
  | lineBehind (before line after : List Char) (hafter : EndsPiece '\n' after)
      (hfeed : '\n' ∉ line) (htells : ¬ Tells line) :
      LayoutEdit (before ++ after) (before ++ '\n' :: line ++ after)

theorem telling_append_feed (before after : List Char) :
    telling (before ++ '\n' :: after) = telling before ++ telling after := by
  rw [telling, pieces_append_cons (decide_eq_true rfl), List.map_append, List.filter_append]
  rfl

/-- A line that says nothing tells nothing. -/
theorem telling_eq_nil {line : List Char} (hfeed : '\n' ∉ line) (htells : ¬ Tells line) :
    telling line = [] := by
  rw [telling, pieces_eq_singleton hfeed, List.map_singleton,
    List.filter_cons_of_neg (by simpa using mt (tells_trim line).mp htells), List.filter_nil]

theorem telling_eq_of_padding {cs ds : List Char} (h : Padding '\n' cs ds) :
    telling ds = telling cs := by
  rw [telling, telling, h.map_trim_pieces]

/-- **One change of the layout** keeps the lines that say something. -/
theorem LayoutEdit.telling_eq {cs ds : List Char} (h : LayoutEdit cs ds) :
    telling ds = telling cs := by
  cases h with
  | carriageReturn before after =>
    -- The carriage return is whitespace at the end of its line.
    have hgap : ∀ c ∈ ['\r'], isWhitespace c ∧ c ≠ '\n' :=
      List.forall_mem_singleton.mpr (by decide)
    have hpad := Padding.back before _ ('\n' :: after) hgap (.inr rfl)
    simpa using telling_eq_of_padding hpad
  | pad h => exact telling_eq_of_padding h
  | lineBefore before line after hbefore hfeed htells =>
    have hsilent : telling (line ++ '\n' :: after) = telling after := by
      rw [telling_append_feed, telling_eq_nil hfeed htells, List.nil_append]
    rcases hbefore with rfl | hlast
    · exact hsilent
    · obtain ⟨front, rfl⟩ := List.getLast?_eq_some_iff.mp hlast
      rw [List.append_assoc, List.append_assoc, List.append_assoc, List.singleton_append,
        List.singleton_append, telling_append_feed front, telling_append_feed front, hsilent]
  | lineBehind before line after hafter hfeed htells =>
    have hsilent : telling (before ++ '\n' :: line) = telling before := by
      rw [telling_append_feed, telling_eq_nil hfeed htells, List.append_nil]
    rcases hafter with rfl | hhead
    · rw [List.append_nil, List.append_nil]
      exact hsilent
    · obtain ⟨rest, rfl⟩ := List.head?_eq_some_iff.mp hhead
      rw [telling_append_feed _ rest, telling_append_feed _ rest, hsilent]

end Notation

/-- **Layout does not matter**: texts that differ in line endings, in whitespace at the ends of
lines and in lines that say nothing describe the same schema. -/
theorem parse_eq_of_layout {text text' : String}
    (h : Relation.EqvGen LayoutEdit text.toList text'.toList) : parse text = parse text' := by
  have htelling {cs ds : List Char} (h : Relation.EqvGen LayoutEdit cs ds) :
      telling cs = telling ds := by
    induction h with
    | rel cs ds h => exact h.telling_eq.symm
    | refl cs => rfl
    | symm cs ds _ ih => exact ih.symm
    | trans cs ds es _ _ ih ih' => exact ih.trans ih'
  rw [parse_eq_segments_telling, parse_eq_segments_telling, htelling h]

/-- A malformed line is taken away, and a line ending of the other kind and whitespace are put in.
The table has its column before and after that. -/
theorem layout_of_one_column :
    Relation.EqvGen LayoutEdit "table a\n- x(INT)\n- y(INT".toList
        "table a\r\n\u2003- x(INT)".toList ∧
      parse "table a\n- x(INT)\n- y(INT" = parse "table a\r\n\u2003- x(INT)" ∧
      parse "table a\r\n\u2003- x(INT)" =
        [{ name := "a", columns := [{ name := "x", type := "INT" }] }] := by
  have hline : LayoutEdit "table a\n- x(INT)".toList "table a\n- x(INT)\n- y(INT".toList :=
    .lineBehind "table a\n- x(INT)".toList "- y(INT".toList [] (.inl rfl) (by decide) (by decide)
  have hreturn : LayoutEdit "table a\n- x(INT)".toList "table a\r\n- x(INT)".toList :=
    .carriageReturn "table a".toList "- x(INT)".toList
  have hspace : LayoutEdit "table a\r\n- x(INT)".toList "table a\r\n\u2003- x(INT)".toList :=
    .pad (.front "table a\r\n".toList ['\u2003'] "- x(INT)".toList
      (List.forall_mem_singleton.mpr (by decide)) (.inr (by decide)))
  have h : Relation.EqvGen LayoutEdit "table a\n- x(INT)\n- y(INT".toList
      "table a\r\n\u2003- x(INT)".toList :=
    .trans _ _ _ (.symm _ _ (.rel _ _ hline)) (.trans _ _ _ (.rel _ _ hreturn) (.rel _ _ hspace))
  exact ⟨h, parse_eq_of_layout h, by decide +kernel⟩

end SchemaWorkbench
