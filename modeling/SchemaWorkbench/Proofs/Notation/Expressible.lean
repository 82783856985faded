import SchemaWorkbench.Proofs.Interchange.Accepted
import SchemaWorkbench.Proofs.Notation.Items
import SchemaWorkbench.Proofs.Notation.Segments
import SchemaWorkbench.Proofs.Schema.Resolution

/-!
# What the notation can express

The tables and columns that the notation describes are not arbitrary. A column always has a name,
and references and default values are never blank. The name of a table and the type of a column may
be missing altogether, in a header without a name, as `table :`, and in a group whose first item is
blank, as `a(,)`. Since both are trimmed, they are not made of whitespace.

## Main definitions

* `Column.Expressible`, `Table.Expressible`: what holds of the columns and tables of a text

## Main results

* `nonblank_resolve`: the type of a word that is not blank is not blank
* `Notation.expressible_of_columnLine?`: what holds of the column of a line
* `expressible_of_mem_parse`: what holds of the tables of a text
-/

namespace SchemaWorkbench

open Text

/-- What holds of every column of a text. -/
structure Column.Expressible (c : Column) : Prop where
  name : Nonblank c.name
  type : c.type = "" ∨ Nonblank c.type
  defaultValue : ∀ s ∈ c.defaultValue, Nonblank s
  reference : ∀ s ∈ c.reference, Nonblank s

/-- What holds of every table of a text. -/
structure Table.Expressible (t : Table) : Prop where
  name : t.name = "" ∨ Nonblank t.name
  columns : ∀ c ∈ t.columns, c.Expressible

theorem nonblank_ofList {cs : List Char} :
    Nonblank (String.ofList cs) ↔ Text.isBlank cs = false := by
  rw [nonblank_iff, SchemaWorkbench.isBlank, String.toList_ofList]

/-- A trimmed text is empty, or it is not blank. -/
theorem eq_empty_or_nonblank_trim (cs : List Char) :
    String.ofList (trim cs) = "" ∨ Nonblank (String.ofList (trim cs)) := by
  by_cases h : trim cs = []
  · exact .inl (by rw [h])
  · exact .inr (nonblank_ofList.mpr (isBlank_trim h))

/-! ## Types -/

theorem nonblank_of_mem_typeWords : ∀ entry ∈ typeWords, Nonblank entry.2 := by
  decide +kernel

/-- The type of a word that is not blank is not blank. -/
theorem nonblank_resolve {word : List Char} (h : Text.isBlank word = false) :
    Nonblank (resolve (String.ofList word)) := by
  rcases resolve_cases (String.ofList word) with ⟨entry, hentry, -, htype⟩ | htype
  · rw [htype]
    exact nonblank_of_mem_typeWords entry hentry
  · rw [htype, uppercase, String.toList_ofList]
    exact nonblank_ofList.mpr (isBlank_upper h)

namespace Notation

/-! ## Groups -/

/-- The name of a group is not blank. -/
theorem isBlank_name_of_atStart? {cs : List Char} {g : Group} (h : Group.atStart? cs = some g) :
    Text.isBlank g.name = false := by
  rw [Group.atStart?] at h
  split at h
  · dsimp only at h
    split at h
    · contradiction
    · rename_i hne
      cases h
      obtain ⟨c, hc⟩ := List.exists_mem_of_ne_nil _ fun hname => hne (.inl hname)
      have hword : isWordChar c := List.all_eq_true.mp List.all_takeWhile c hc
      exact isBlank_eq_false_iff.mpr ⟨c, hc, isWhitespace_of_isWordChar hword⟩
  · contradiction

theorem isBlank_name_of_find? {cs : List Char} {g : Group} (h : Group.find? cs = some g) :
    Text.isBlank g.name = false := by
  induction cs with
  | nil => contradiction
  | cons c cs ih =>
    rw [Group.find?] at h
    cases hstart : Group.atStart? (c :: cs) with
    | some g' =>
      rw [hstart] at h
      cases h
      exact isBlank_name_of_atStart? hstart
    | none =>
      rw [hstart] at h
      exact ih h

/-- A value after a flag is not blank. -/
theorem nonblank_of_flagValue? {flags : List (List Char)} {starts : List String} {value : String}
    (h : flagValue? flags starts = some value) : Nonblank value := by
  obtain ⟨flag, -, h⟩ := Option.bind_eq_some_iff.mp h
  obtain ⟨⟨before, after⟩, -, h⟩ := Option.bind_eq_some_iff.mp h
  dsimp only at h
  split at h
  · contradiction
  · rename_i hne
    cases h
    exact nonblank_ofList.mpr (isBlank_trim hne)

theorem nonblank_normalizeDefault {value : String} (h : Nonblank value) :
    Nonblank (normalizeDefault value) := by
  rw [normalizeDefault]
  split
  · decide
  · exact h

/-- The first item of a group is empty, or it is not blank. -/
theorem headD_items (g : Group) :
    g.items.headD [] = [] ∨ Text.isBlank (g.items.headD []) = false := by
  rw [Group.items]
  cases pieces (· = ',') g.content with
  | nil => exact .inl rfl
  | cons item items =>
    by_cases h : trim item = []
    · exact .inl (by simp [h, lower, lowerAfter])
    · exact .inr (isBlank_lower (isBlank_trim h))

theorem expressible_column {g : Group} (hname : Text.isBlank g.name = false) :
    g.column.Expressible where
  name := nonblank_ofList.mpr hname
  type := by
    have htype : g.column.type = resolve (String.ofList (g.items.headD [])) := rfl
    have hempty : resolve (String.ofList []) = "" := by decide +kernel
    rw [htype]
    rcases headD_items g with h | h
    · exact .inl (by rw [h, hempty])
    · exact .inr (nonblank_resolve h)
  defaultValue s hs := by
    obtain ⟨value, hvalue, rfl⟩ := Option.map_eq_some_iff.mp hs
    exact nonblank_normalizeDefault (nonblank_of_flagValue? hvalue)
  reference s hs := nonblank_of_flagValue? hs

/-- What holds of the column of a line. -/
theorem expressible_of_columnLine? {line : List Char} {c : Column}
    (h : columnLine? line = some c) : c.Expressible := by
  rw [columnLine?] at h
  split at h
  · obtain ⟨g, hg, rfl⟩ := Option.map_eq_some_iff.mp h
    exact expressible_column (isBlank_name_of_find? hg)
  · contradiction

theorem eq_empty_or_nonblank_header {line : List Char} {name : String}
    (h : (header? line).map String.ofList = some name) : name = "" ∨ Nonblank name := by
  obtain ⟨cs, hcs, rfl⟩ := Option.map_eq_some_iff.mp h
  rw [header?] at hcs
  split at hcs
  · rw [← Option.some.inj hcs]
    exact eq_empty_or_nonblank_trim _
  · contradiction

end Notation

/-- **What the notation can express**: names and types that are empty or not blank, column names
that are not blank, and no blank references or default values. -/
theorem expressible_of_mem_parse {text : String} {t : Table} (ht : t ∈ parse text) :
    t.Expressible := by
  rw [parse_eq_segments] at ht
  obtain ⟨⟨line, -, hname⟩, hcolumns⟩ := Notation.exists_line_of_mem_segments ht
  refine ⟨Notation.eq_empty_or_nonblank_header hname, fun c hc => ?_⟩
  obtain ⟨line, -, hcolumn⟩ := hcolumns c hc
  exact Notation.expressible_of_columnLine? hcolumn

end SchemaWorkbench
