import SchemaWorkbench.Proofs.Text.Blank
import SchemaWorkbench.Proofs.Text.Pieces

/-!
# Whitespace at the ends of pieces

A text can be given more whitespace without a change to its pieces, once these are trimmed: at the
start of a piece, which is where the text starts or after a separator, and at the end of a piece,
which is where the text ends or before a separator. The whitespace must not hold separators itself.

## Main definitions

* `StartsPiece sep`, `EndsPiece sep`: the places of a text where a piece begins and ends
* `Padding sep`: a text and the same text with more whitespace at an end of one of its pieces

## Main results

* `Padding.map_trim_pieces`: the pieces of both texts are the same, once they are trimmed
* `exists_map_trim_pieces`: once they are trimmed, the pieces between line feeds are the lines
-/

namespace SchemaWorkbench.Text

/-- A piece begins behind the text. -/
def StartsPiece (sep : Char) (before : List Char) : Prop :=
  before = [] ∨ sep ∈ before.getLast?

/-- A piece has ended before the text. -/
def EndsPiece (sep : Char) (after : List Char) : Prop :=
  after = [] ∨ sep ∈ after.head?

/-- Whitespace is put before or behind one of the pieces of a text. -/
inductive Padding (sep : Char) : List Char → List Char → Prop
  | front (before gap after : List Char) (hgap : ∀ c ∈ gap, isWhitespace c ∧ c ≠ sep)
      (hbefore : StartsPiece sep before) : Padding sep (before ++ after) (before ++ gap ++ after)
  | back (before gap after : List Char) (hgap : ∀ c ∈ gap, isWhitespace c ∧ c ≠ sep)
      (hafter : EndsPiece sep after) : Padding sep (before ++ after) (before ++ gap ++ after)

section

variable {sep : Char} {gap : List Char}

/-- What stands before a text without being cut off belongs to its first piece. -/
theorem pieces_append_front (hgap : ∀ c ∈ gap, isWhitespace c ∧ c ≠ sep) {cs piece : List Char}
    {rest : List (List Char)} (h : pieces (· = sep) cs = piece :: rest) :
    pieces (· = sep) (gap ++ cs) = (gap ++ piece) :: rest := by
  induction gap with
  | nil => exact h
  | cons c gap ih =>
    rw [List.forall_mem_cons] at hgap
    exact pieces_cons_of_not (by simpa using hgap.1.2) (ih hgap.2)

/-- What stands behind a text without being cut off belongs to its last piece. -/
theorem exists_pieces_append_back (hgap : ∀ c ∈ gap, isWhitespace c ∧ c ≠ sep) (cs : List Char) :
    ∃ others piece, pieces (· = sep) cs = others ++ [piece] ∧
      pieces (· = sep) (cs ++ gap) = others ++ [piece ++ gap] := by
  induction cs with
  | nil =>
    have hnone : sep ∉ gap := fun hsep => (hgap sep hsep).2 rfl
    exact ⟨[], [], rfl, pieces_eq_singleton hnone⟩
  | cons c cs ih =>
    obtain ⟨others, piece, hcs, hback⟩ := ih
    by_cases hc : c = sep
    · have hsep : decide (c = sep) = true := decide_eq_true hc
      refine ⟨[] :: others, piece, ?_, ?_⟩
      · rw [pieces, if_pos hsep, hcs, List.cons_append]
      · rw [List.cons_append, pieces, if_pos hsep, hback, List.cons_append]
    · -- The character belongs to the first piece, which may be the last one.
      have hsep : decide (c = sep) = false := decide_eq_false hc
      cases others with
      | nil =>
        exact ⟨[], c :: piece, pieces_cons_of_not hsep hcs, pieces_cons_of_not hsep hback⟩
      | cons first others =>
        exact ⟨(c :: first) :: others, piece, pieces_cons_of_not hsep hcs,
          pieces_cons_of_not hsep hback⟩

/-- The first piece begins where the text begins. -/
theorem map_trim_pieces_front (hgap : ∀ c ∈ gap, isWhitespace c ∧ c ≠ sep) (cs : List Char) :
    (pieces (· = sep) (gap ++ cs)).map trim = (pieces (· = sep) cs).map trim := by
  obtain ⟨piece, rest, hcs⟩ := exists_pieces_eq_cons (· = sep) cs
  rw [pieces_append_front hgap hcs, hcs, List.map_cons, List.map_cons,
    trim_gap_append fun c hc => (hgap c hc).1]

/-- The last piece ends where the text ends. -/
theorem map_trim_pieces_back (hgap : ∀ c ∈ gap, isWhitespace c ∧ c ≠ sep) (cs : List Char) :
    (pieces (· = sep) (cs ++ gap)).map trim = (pieces (· = sep) cs).map trim := by
  obtain ⟨others, piece, hcs, hback⟩ := exists_pieces_append_back hgap cs
  rw [hback, hcs, List.map_append, List.map_append, List.map_singleton, List.map_singleton,
    trim_append_gap fun c hc => (hgap c hc).1]

/-- **The pieces of both texts are the same**, once they are trimmed. -/
theorem Padding.map_trim_pieces {cs ds : List Char} (h : Padding sep cs ds) :
    (pieces (· = sep) ds).map trim = (pieces (· = sep) cs).map trim := by
  have hsep : decide (sep = sep) = true := decide_eq_true rfl
  cases h with
  | front before gap after hgap hbefore =>
    rw [List.append_assoc]
    rcases hbefore with rfl | hlast
    · exact map_trim_pieces_front hgap after
    · obtain ⟨front, rfl⟩ := List.getLast?_eq_some_iff.mp hlast
      rw [List.append_assoc, List.append_assoc, List.singleton_append, List.singleton_append,
        pieces_append_cons hsep, pieces_append_cons hsep, List.map_append, List.map_append,
        map_trim_pieces_front hgap]
  | back before gap after hgap hafter =>
    rcases hafter with rfl | hhead
    · rw [List.append_nil, List.append_nil]
      exact map_trim_pieces_back hgap before
    · obtain ⟨rest, rfl⟩ := List.head?_eq_some_iff.mp hhead
      rw [pieces_append_cons hsep, pieces_append_cons hsep, List.map_append, List.map_append,
        map_trim_pieces_back hgap]

end

/-- **Once they are trimmed, the pieces between line feeds are the lines**, but for an empty piece
that may stand at the end. -/
theorem exists_map_trim_pieces (cs : List Char) :
    ∃ rest, (rest = [] ∨ rest = [[]]) ∧
      (pieces (· = '\n') cs).map trim = (lines cs).map trim ++ rest := by
  obtain ⟨ps, rest, hpieces, hrest, hlines⟩ := exists_pieces_of_lines cs
  have hreturn : ∀ c ∈ ['\r'], isWhitespace c := List.forall_mem_singleton.mpr (by decide)
  have htrim : List.Forall₂ (fun line piece => trim line = trim piece) (lines cs) ps := by
    refine hlines.imp fun line piece h => ?_
    rcases h with rfl | rfl
    · rfl
    · rw [trim_append_gap hreturn]
  have hmap : (lines cs).map trim = ps.map trim := by
    rwa [← List.forall₂_eq_eq_eq, List.forall₂_map_left_iff, List.forall₂_map_right_iff]
  refine ⟨rest, hrest, ?_⟩
  rw [hpieces, List.map_append, hmap]
  rcases hrest with rfl | rfl <;> rfl

end SchemaWorkbench.Text
