import SchemaWorkbench.Notation
import SchemaWorkbench.Proofs.Text.Blank
import SchemaWorkbench.Proofs.Text.Lowercase
import SchemaWorkbench.Proofs.Text.Pieces

/-!
# Lines put together from their parts

What the parser reads in a line that is put together from a name and items. It looks for the first
closing parenthesis, for commas, for the first colon of an item and for one colon at the end of a
header, so that a part is read as it is written only if it holds none of what ends it: an item may
hold colons and opening parentheses, the name of a table may even end with a colon.

## Main definitions

* `IsItem`: a text that can stand between the commas of a group
* `IsValue`: such a text that lowercasing does not change

## Main results

* `IsValue.append`: a value can be written after its label
* `header?_append`: the name in a header
* `Group.find?_append`, `Group.items_intercalate`: the parts of a group
* `flagValue?_of_find?`: the value after its label
-/

namespace SchemaWorkbench.Notation

open Text

/-- A text that can stand between the commas of a group: it is trimmed and not empty, and it holds
nothing that ends an item, a group or a line. -/
structure IsItem (cs : List Char) : Prop where
  ne_nil : cs ≠ []
  trim_eq : trim cs = cs
  comma : ',' ∉ cs
  parenthesis : ')' ∉ cs
  feed : '\n' ∉ cs

/-- An item that lowercasing does not change. -/
structure IsValue (cs : List Char) : Prop extends IsItem cs where
  lower_eq : lower cs = cs

theorem isItem_iff {cs : List Char} :
    IsItem cs ↔ cs ≠ [] ∧ trim cs = cs ∧ ',' ∉ cs ∧ ')' ∉ cs ∧ '\n' ∉ cs := by
  constructor
  · rintro ⟨hne, htrim, hcomma, hparenthesis, hfeed⟩
    exact ⟨hne, htrim, hcomma, hparenthesis, hfeed⟩
  · rintro ⟨hne, htrim, hcomma, hparenthesis, hfeed⟩
    exact ⟨hne, htrim, hcomma, hparenthesis, hfeed⟩

theorem isValue_iff {cs : List Char} : IsValue cs ↔ IsItem cs ∧ lower cs = cs := by
  constructor
  · rintro ⟨hitem, hlower⟩
    exact ⟨hitem, hlower⟩
  · rintro ⟨hitem, hlower⟩
    exact ⟨hitem, hlower⟩

instance (cs : List Char) : Decidable (IsItem cs) := decidable_of_iff' _ isItem_iff

instance (cs : List Char) : Decidable (IsValue cs) := decidable_of_iff' _ isValue_iff

/-- A value can be written after its label. -/
theorem IsValue.append {label cs : List Char} (hlabel : IsValue label) (h : IsValue cs) :
    IsValue (label ++ [':', ' '] ++ cs) where
  ne_nil := List.append_ne_nil_of_right_ne_nil _ h.ne_nil
  trim_eq := trim_append_append hlabel.trim_eq h.trim_eq hlabel.ne_nil h.ne_nil _
  comma := by simp [hlabel.comma, h.comma]
  parenthesis := by simp [hlabel.parenthesis, h.parenthesis]
  feed := by simp [hlabel.feed, h.feed]
  lower_eq := lower_append_eq_self (lower_append_eq_self hlabel.lower_eq (by decide)) h.lower_eq

/-! ## Headers -/

/-- **The name in a header** is read as it is written, even if it is empty or ends with a colon. -/
theorem header?_append {name : List Char} (h : trim name = name) :
    header? (headerWord ++ [' '] ++ name ++ [':']) = some name := by
  have hcolon : trim [':'] = [':'] := by decide
  have hline : trim (headerWord ++ ([' '] ++ name) ++ [':']) =
      headerWord ++ ([' '] ++ name) ++ [':'] :=
    trim_append_append (by decide) hcolon (by decide) (List.cons_ne_nil _ _) _
  have hname : trim (name ++ [':']) = name ++ [':'] := by
    by_cases hne : name = []
    · rw [hne]
      exact hcolon
    · simpa using trim_append_append h hcolon hne (List.cons_ne_nil _ _) []
  have hdrop : dropColon (name ++ [':']) = name := by
    rw [dropColon, List.getLast?_concat, if_pos rfl, List.dropLast_concat]
  have hrest : trim (' ' :: (name ++ [':'])) = name ++ [':'] := by
    rw [trim_cons_of_isWhitespace (by decide), hname]
  rw [header?, List.append_assoc headerWord, hline]
  -- The word is five characters long, and what follows it starts with the space.
  show (if headerWord = headerWord ∧ isWhitespace ' ' then
    some (trim (dropColon (trim (' ' :: (name ++ [':']))))) else none) = some name
  rw [if_pos ⟨rfl, by decide⟩, hrest, hdrop, h]

/-- A trimmed line that starts with a dash is no header. -/
theorem header?_of_dash {cs : List Char} (h : trim ('-' :: cs) = '-' :: cs) :
    header? ('-' :: cs) = none := by
  rw [header?, h]
  refine if_neg ?_
  rintro ⟨hword, -⟩
  rw [List.take_succ_cons, List.map_cons] at hword
  exact absurd (List.head_eq_of_cons_eq hword) (by decide)

/-! ## Groups -/

/-- The characters of a name lie between the space and the whitespace beyond ASCII. -/
theorem isWhitespace_of_isWordChar {c : Char} (h : isWordChar c) : isWhitespace c = false := by
  have htests : (decide (65 ≤ c.val ∧ c.val ≤ 90) ||
      (decide (97 ≤ c.val) && decide (c.val ≤ 122)) ||
      (decide (48 ≤ c.val) && decide (c.val ≤ 57)) || c == '_') = true := h
  have hcodes : (((65 ≤ c.toNat ∧ c.toNat ≤ 90) ∨ (97 ≤ c.toNat ∧ c.toNat ≤ 122)) ∨
      (48 ≤ c.toNat ∧ c.toNat ≤ 57)) ∨ c = '_' := by
    simpa [UInt32.le_iff_toNat_le] using htests
  rcases hcodes with hcodes | rfl
  · simp only [isWhitespace, Bool.or_eq_false_iff, Bool.and_eq_false_imp, decide_eq_true_eq,
      decide_eq_false_iff_not, not_le, beq_eq_false_iff_ne, ne_eq]
    omega
  · decide

/-- A name of a column is trimmed. -/
theorem trim_of_isWordChar {name : List Char} (h : ∀ c ∈ name, isWordChar c) :
    trim name = name := by
  rw [trim_eq_self_iff]
  constructor
  · intro c hc
    exact isWhitespace_of_isWordChar (h c (List.mem_of_mem_head? hc))
  · intro c hc
    exact isWhitespace_of_isWordChar (h c (List.mem_of_getLast? hc))

/-- A text that starts with a name, whitespace and an opening parenthesis starts with the group up
to the next closing one. -/
theorem Group.atStart?_append {name gap content : List Char} (hne : name ≠ [])
    (hname : ∀ c ∈ name, isWordChar c) (hgap : ∀ c ∈ gap, isWhitespace c) (hcontent : content ≠ [])
    (hclose : ')' ∉ content) (rest : List Char) :
    Group.atStart? (name ++ (gap ++ '(' :: (content ++ ')' :: rest))) = some ⟨name, content⟩ := by
  -- Neither whitespace nor the parenthesis belongs to the name.
  obtain ⟨c, tail, htail, hc⟩ : ∃ c tail,
      gap ++ '(' :: (content ++ ')' :: rest) = c :: tail ∧ isWordChar c = false := by
    cases gap with
    | nil => exact ⟨'(', _, rfl, by decide⟩
    | cons c gap =>
      refine ⟨c, _, rfl, ?_⟩
      by_contra hword
      have hnot := isWhitespace_of_isWordChar (by simpa using hword)
      rw [hgap c List.mem_cons_self] at hnot
      contradiction
  have hin : ∀ c ∈ content, decide (c ≠ ')') = true := by
    intro c hc
    exact decide_eq_true fun h => hclose (h ▸ hc)
  have hclosing : decide (')' ≠ ')') = false := by decide
  have hinner : trimStart (gap ++ '(' :: (content ++ ')' :: rest)) =
      '(' :: (content ++ ')' :: rest) :=
    dropWhile_append_cons hgap (by decide) _
  rw [Group.atStart?, htail, dropWhile_append_cons hname hc, takeWhile_append_cons hname hc,
    ← htail, hinner]
  simp only [takeWhile_append_cons hin hclosing, dropWhile_append_cons hin hclosing]
  rw [if_neg (by simp [hne, hcontent])]

/-- **The parts of a group** at the start of a text: the name ends at the first parenthesis, and the
text between the parentheses at the first closing one. -/
theorem Group.find?_append {name content : List Char} (hne : name ≠ [])
    (hname : ∀ c ∈ name, isWordChar c) (hcontent : content ≠ []) (hclose : ')' ∉ content)
    (rest : List Char) :
    Group.find? (name ++ '(' :: (content ++ ')' :: rest)) = some ⟨name, content⟩ := by
  have hgap : ∀ c ∈ ([] : List Char), isWhitespace c := by simp
  have hstart := Group.atStart?_append hne hname hgap hcontent hclose rest
  rw [List.nil_append] at hstart
  cases name with
  | nil => exact absurd rfl hne
  | cons c name => rw [List.cons_append, Group.find?, ← List.cons_append, hstart]; rfl

/-- **The items of a group** are its type in lower case and the values that follow it, each after a
comma and a space. -/
theorem Group.items_intercalate {type : List Char} {values : List (List Char)} (htype : IsItem type)
    (hvalues : ∀ v ∈ values, IsValue v) (name : List Char) :
    Group.items ⟨name, [',', ' '].intercalate (type :: values)⟩ = lower type :: values := by
  have hcut : pieces (· = ',') ([',', ' '].intercalate (type :: values)) =
      type :: values.map ([' '] ++ ·) := by
    rw [show [',', ' '] = [','] ++ [' '] from rfl, intercalate_append]
    refine pieces_intercalate ?_ (List.cons_ne_nil _ _)
    rw [List.forall_mem_cons, List.forall_mem_map]
    exact ⟨htype.comma, fun v hv => by simp [(hvalues v hv).comma]⟩
  have hread : ∀ v ∈ values, lower (trim ([' '] ++ v)) = v := by
    intro v hv
    rw [List.singleton_append, trim_cons_of_isWhitespace (by decide), (hvalues v hv).trim_eq,
      (hvalues v hv).lower_eq]
  rw [Group.items, hcut, List.map_cons, htype.trim_eq, List.map_map]
  exact congrArg (lower type :: ·) ((List.map_congr_left hread).trans (List.map_id' values))

/-! ## Values after their labels -/

section

variable {flags : List (List Char)} {starts : List String}

theorem flagValue?_of_find?_none (h : flags.find? (startsWithAny · starts) = none) :
    flagValue? flags starts = none := by
  rw [flagValue?, h]
  rfl

/-- **The value after its label** is what follows the first colon, which is that of the label. -/
theorem flagValue?_of_find? {label value : List Char} (hlabel : ':' ∉ label)
    (hvalue : IsItem value)
    (h : flags.find? (startsWithAny · starts) = some (label ++ [':', ' '] ++ value)) :
    flagValue? flags starts = some (String.ofList value) := by
  have hcut : cutAt? ':' (label ++ [':', ' '] ++ value) = some (label, ' ' :: value) := by
    rw [List.append_assoc]
    exact cutAt?_append hlabel (' ' :: value)
  have htrim : trim (' ' :: value) = value := by
    rw [trim_cons_of_isWhitespace (by decide), hvalue.trim_eq]
  rw [flagValue?, h, Option.bind_eq_bind, Option.bind_some, hcut, Option.bind_eq_bind,
    Option.bind_some]
  dsimp only
  rw [htrim, if_neg hvalue.ne_nil]

end

end SchemaWorkbench.Notation
