import SchemaWorkbench.Proofs.Interchange.Accepted
import SchemaWorkbench.Proofs.Json.Faithful
import SchemaWorkbench.Proofs.Notation.Items
import SchemaWorkbench.Proofs.Notation.Layout

/-!
# Whitespace before a schema

Whether a text is a document is told by its first character other than whitespace. The text is then
read as a whole, with the whitespace before that character, and the two readers know different kinds
of it: lines of the notation are trimmed of all whitespace, and JSON has four characters between its
tokens. So whitespace before a text in the notation is never of account. Before a document it is of
none if it is whitespace of JSON. Any other whitespace there, such as a no-break space, is looked
over when the kind of the text is told and makes the document malformed when it is read.

## Main definitions

* `ImportError.SameKind`, `Schema.Agree`: what two loads have in common

## Main results

* `parse_append`: whitespace before a text in the notation
* `Json.read_append`, `Json.read_append_eq_error`: whitespace before a JSON text
* `Schema.load_append`, `Schema.load_append_eq_error`: whitespace before a text that is loaded
* `Schema.load_append_agree_iff`: when it does not matter
-/

namespace SchemaWorkbench

open Text

/-- The errors are of one kind, whatever else they tell. -/
def ImportError.SameKind : ImportError → ImportError → Prop
  | .noTables, .noTables => True
  | .invalidTable _, .invalidTable _ => True
  | .incompleteColumn _ _, .incompleteColumn _ _ => True
  | .json _, .json _ => True
  | _, _ => False

/-- Both texts are loaded as the same schema, or both are refused with errors of one kind. -/
def Schema.Agree : Except ImportError Schema → Except ImportError Schema → Prop
  | .ok s, .ok s' => s = s'
  | .error e, .error e' => e.SameKind e'
  | _, _ => False

theorem ImportError.SameKind.refl (e : ImportError) : e.SameKind e := by
  cases e <;> trivial

theorem Schema.Agree.refl (r : Except ImportError Schema) : Agree r r := by
  cases r with
  | ok s => rfl
  | error e => exact ImportError.SameKind.refl e

/-- Only errors of one kind agree with a malformed document. -/
theorem Schema.agree_json_iff {cause : Json.Error} {r : Except ImportError Schema} :
    Agree (.error (.json cause)) r ↔ ∃ cause', r = .error (.json cause') := by
  constructor
  · intro h
    match r, h with
    | .error (.json cause'), _ => exact ⟨cause', rfl⟩
  · rintro ⟨cause', rfl⟩
    trivial

variable {gap text : String}

/-! ## The kind of the text -/

theorem looksLikeDocument_append (hgap : ∀ c ∈ gap.toList, isWhitespace c) (text : String) :
    looksLikeDocument (gap ++ text) = looksLikeDocument text := by
  rw [looksLikeDocument, looksLikeDocument, String.toList_append, trimStart,
    List.dropWhile_append_of_pos hgap]
  rfl

/-! ## The notation -/

/-- Whitespace before a text is whitespace at the start of its first line, behind empty lines. -/
theorem Notation.telling_append {gap : List Char} (hgap : ∀ c ∈ gap, isWhitespace c)
    (cs : List Char) : telling (gap ++ cs) = telling cs := by
  induction gap with
  | nil => rfl
  | cons c gap ih =>
    obtain ⟨hc, hgap⟩ := List.forall_mem_cons.mp hgap
    rw [← ih hgap, List.cons_append]
    -- A line feed ends an empty line, and anything else pads the first line.
    by_cases hfeed : c = '\n'
    · subst hfeed
      have hempty : telling [] = [] := by decide
      rw [← List.nil_append ('\n' :: _), telling_append_feed, hempty, List.nil_append]
    · exact telling_eq_of_padding (.front [] [c] (gap ++ cs)
        (List.forall_mem_singleton.mpr ⟨hc, hfeed⟩) (.inl rfl))

/-- **Whitespace before a text in the notation** does not matter. -/
theorem parse_append (hgap : ∀ c ∈ gap.toList, isWhitespace c) (text : String) :
    parse (gap ++ text) = parse text := by
  rw [parse_eq_segments_telling, parse_eq_segments_telling, String.toList_append,
    Notation.telling_append hgap]

/-! ## JSON -/

namespace Json

/-- **Whitespace of JSON before a text** does not matter. -/
theorem read_append (hgap : ∀ c ∈ gap.toList, isGap c) (text : String) :
    read (gap ++ text) = read text := by
  rw [read, read, readWithin, readWithin, String.toList_append,
    tokens_gap (List.all_eq_true.mpr hgap)]

/-- No token starts with whitespace. -/
theorem nextToken_of_isWhitespace {c : Char} (hc : isWhitespace c) (cs : List Char) :
    nextToken c cs = (.broken .expectedValue, []) := by
  have hdigit : ¬ c.isDigit := fun hdigit => by
    have hword : Notation.isWordChar c := by simp [Notation.isWordChar, Char.isAlphanum, hdigit]
    rw [Notation.isWhitespace_of_isWordChar hword] at hc
    contradiction
  unfold nextToken
  split
  -- Tokens start with marks, letters and digits; numbers have a case for all digits.
  case h_11 =>
    refine if_neg (not_or.mpr ⟨?_, hdigit⟩)
    rintro rfl
    exact absurd hc (by decide)
  all_goals exact absurd hc (by decide)

/-- **Other whitespace before a text** stands where a value should. -/
theorem read_append_eq_error (hgap : ∀ c ∈ gap.toList, isWhitespace c)
    (hother : ¬ ∀ c ∈ gap.toList, isGap c) (text : String) :
    read (gap ++ text) = .error .expectedValue := by
  -- What comes before the first other character is skipped.
  obtain ⟨c, hfirst⟩ : ∃ c, gap.toList.find? (fun c => !isGap c) = some c := by
    rw [← Option.isSome_iff_exists, List.find?_isSome]
    simpa using hother
  obtain ⟨hc, before, after, hsplit, hbefore⟩ := List.find?_eq_some_iff_append.mp hfirst
  have hspace : isWhitespace c := hgap c (by simp [hsplit])
  rw [read, readWithin, String.toList_append, hsplit, List.append_assoc,
    tokens_gap (by simpa using hbefore), List.cons_append,
    tokens_cons (by simpa using hc) (nextToken_of_isWhitespace hspace _)]
  rfl

end Json

/-! ## Loading -/

namespace Schema

/-- **Whitespace that does not matter**: any before the notation, that of JSON before a document. -/
theorem load_append (hgap : ∀ c ∈ gap.toList, isWhitespace c)
    (h : looksLikeDocument text = false ∨ ∀ c ∈ gap.toList, Json.isGap c) :
    load (gap ++ text) = load text := by
  rw [load, load, looksLikeDocument_append hgap]
  split
  · rename_i hdocument
    have hjson := h.resolve_left (ne_false_of_eq_true hdocument)
    rw [Document.ofText, Document.ofText, Json.read_append hjson]
  · rw [parse_append hgap]

/-- **Whitespace that makes a document malformed**: any that JSON does not know. -/
theorem load_append_eq_error (hgap : ∀ c ∈ gap.toList, isWhitespace c)
    (hdocument : looksLikeDocument text) (hother : ¬ ∀ c ∈ gap.toList, Json.isGap c) :
    load (gap ++ text) = .error (.json (.malformed .expectedValue)) := by
  rw [load, looksLikeDocument_append hgap, if_pos hdocument, Document.ofText,
    Json.read_append_eq_error hgap hother]
  rfl

/-- **When whitespace before a text does not matter.** A text is loaded as it is without the
whitespace before it, or refused with an error of the same kind, exactly when it is in the notation,
when the whitespace is that of JSON, or when the text is a document that is malformed or misshapen
anyway. In the first two cases nothing at all changes; otherwise the document is malformed for its
first character. -/
theorem load_append_agree_iff (hgap : ∀ c ∈ gap.toList, isWhitespace c) (text : String) :
    (Agree (load (gap ++ text)) (load text) ↔
        looksLikeDocument text = false ∨ (∀ c ∈ gap.toList, Json.isGap c) ∨
          ∃ cause, load text = .error (.json cause)) ∧
      (looksLikeDocument text = false ∨ (∀ c ∈ gap.toList, Json.isGap c) →
        load (gap ++ text) = load text) ∧
      (looksLikeDocument text → (¬ ∀ c ∈ gap.toList, Json.isGap c) →
        load (gap ++ text) = .error (.json (.malformed .expectedValue))) := by
  refine ⟨?_, load_append hgap, load_append_eq_error hgap⟩
  by_cases h : looksLikeDocument text = false ∨ ∀ c ∈ gap.toList, Json.isGap c
  · rw [load_append hgap h, ← or_assoc]
    exact iff_of_true (.refl _) (.inl h)
  · rw [← or_assoc, or_iff_right h]
    rw [not_or, Bool.not_eq_false] at h
    rw [load_append_eq_error hgap h.1 h.2, agree_json_iff]

/-- Before the notation stands a space that JSON does not know, with a line feed behind it. -/
theorem load_after_wide_space :
    (∀ c ∈ "\u2003\n".toList, isWhitespace c) ∧
      looksLikeDocument "table a\n- x(INT)" = false ∧
      load ("\u2003\n" ++ "table a\n- x(INT)") =
        .ok [{ name := "a", columns := [{ name := "x", type := "INT" }] }] := by
  have hgap : ∀ c ∈ "\u2003\n".toList, isWhitespace c := List.all_eq_true.mp (by decide)
  have hnotation : looksLikeDocument "table a\n- x(INT)" = false := by decide
  refine ⟨hgap, hnotation, ?_⟩
  have hparse : parse "table a\n- x(INT)" =
      [{ name := "a", columns := [{ name := "x", type := "INT" }] }] := by decide +kernel
  rw [(load_append_agree_iff hgap "table a\n- x(INT)").2.1 (.inl hnotation), load, hnotation,
    hparse]
  rfl

/-- A document with a no-break space before it is told for a document and then refused, so that
whitespace before a text does matter. -/
theorem document_after_space_refused :
    let text := "\x7b\"tables\":[\x7b\"name\":\"a\",\"columns\":[]\x7d]\x7d"
    load text = .ok [{ name := "a" }] ∧
      load ("\u00A0" ++ text) = .error (.json (.malformed .expectedValue)) ∧
      ¬ ∀ gap text : String, (∀ c ∈ gap.toList, isWhitespace c) →
        Agree (load (gap ++ text)) (load text) := by
  intro text
  let v := Json.obj
    [("tables", .arr [.obj [("name", .str "a"), ("columns", .arr [])]])]
  have hread : Json.read text = .ok v := by
    have hplain : Json.Plain Json.nestingLimit v :=
      .obj (by simpa using .arr (by simpa using .obj (by simpa using ⟨.str _, .arr (by simp)⟩)))
    have htext : text = v.compact := by decide +kernel
    rw [htext, Json.read_compact hplain]
  have hload : load text = .ok [{ name := "a" }] := by
    rw [load, if_pos (by decide), Document.ofText, hread]
    rfl
  have hgap : ∀ c ∈ "\u00A0".toList, isWhitespace c := List.all_eq_true.mp (by decide)
  have hother : ¬ ∀ c ∈ "\u00A0".toList, Json.isGap c :=
    fun h => absurd (h '\u00A0' (by decide)) (by decide)
  have hrefused : load ("\u00A0" ++ text) = .error (.json (.malformed .expectedValue)) :=
    load_append_eq_error hgap (by decide) hother
  refine ⟨hload, hrefused, fun h => ?_⟩
  have hagree := h _ text hgap
  rw [hload, hrefused] at hagree
  exact hagree

end Schema

end SchemaWorkbench
