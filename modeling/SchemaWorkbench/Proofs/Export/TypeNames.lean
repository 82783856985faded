import SchemaWorkbench.Export.PascalCase
import SchemaWorkbench.Proofs.Text.Blank
import SchemaWorkbench.Proofs.Text.Delimited
import SchemaWorkbench.Proofs.Text.LetterCase

/-!
# When type names collide

The name of a type forgets two things of the name of its table: the underscores around empty
segments, and the case of its letters. In a name of ASCII letters and underscores it forgets nothing
else: every capital letter of the type name starts a segment, so that the segments are found again.

No name of a type holds a line feed, unless the name of the table does.

## Main definitions

* `segments`: the segments of a table name that are not empty

## Main results

* `flatMap_capitalize_eq_iff`: segments are found again, but for the case of their letters
* `pascalCase_eq_iff`: when two tables have types of the same name
* `feed_notMem_pascalCase`: type names stand on one line
-/

namespace SchemaWorkbench.Export

open Text Casing

/-! ## Segments -/

/-- The segments of a table name: the texts between its underscores that are not empty. -/
def segments (name : String) : List (List Char) :=
  (pieces (· = '_') name.toList).filter (· ≠ [])

/-- Empty segments vanish. -/
theorem pascalCase_eq (name : String) :
    pascalCase name = String.ofList ((segments name).flatMap capitalize) := by
  rw [pascalCase, segments]
  induction pieces (· = '_') name.toList with
  | nil => rfl
  | cons word words ih =>
    rw [String.ofList_inj] at ih ⊢
    cases word with
    | nil => simpa [capitalize] using ih
    | cons c cs => simpa using ih

/-- A segment with a capital first letter does not depend on the case of ASCII letters. -/
theorem capitalize_map_toLower (word : List Char) :
    capitalize (word.map Char.toLower) = capitalize word := by
  have hupper (c : Char) : upperChar c.toLower = upperChar c := apply_toLower (by decide) c
  cases word with
  | nil => rfl
  | cons c cs =>
    rw [List.map_cons, capitalize, capitalize, hupper, List.flatMap_map]
    simp only [lowerChar_toLower]

/-! ## Words of ASCII letters -/

/-- The text is a word of ASCII letters. -/
structure IsWord (word : List Char) : Prop where
  ne_nil : word ≠ []
  isAlpha : ∀ c ∈ word, c.isAlpha

theorem ascii_of_isAlpha {c : Char} (hc : c.isAlpha) : c.toNat < 0x80 := by
  have htests : (decide (65 ≤ c.val ∧ c.val ≤ 90) ||
      (decide (97 ≤ c.val) && decide (c.val ≤ 122))) = true := hc
  have hcodes : (65 ≤ c.toNat ∧ c.toNat ≤ 90) ∨ (97 ≤ c.toNat ∧ c.toNat ≤ 122) := by
    simpa [UInt32.le_iff_toNat_le] using htests
  omega

/-- The capital of a letter of ASCII. -/
theorem upperChar_of_isAlpha {c : Char} (hc : c.isAlpha) :
    ∃ d, upperChar c = [d] ∧ d.isLower = false ∧ d.toLower = c.toLower := by
  have hascii := ascii_of_isAlpha hc
  refine ⟨c.toUpper, by rw [upperChar, if_pos hascii], ?_⟩
  revert hc
  exact of_ascii hascii (by decide)

/-- The small letter of a letter of ASCII. -/
theorem lowerChar_of_isAlpha {c : Char} (hc : c.isAlpha) :
    lowerChar c = [c.toLower] ∧ c.toLower.isLower ∧ c.toLower.toLower = c.toLower := by
  have hascii := ascii_of_isAlpha hc
  refine ⟨by rw [lowerChar, if_pos hascii], ?_⟩
  revert hc
  exact of_ascii hascii (by decide)

/-- A word becomes one character that is no small letter and then small letters. Its letters can
still be told, but for their case. -/
theorem IsWord.exists_capitalize {word : List Char} (hword : IsWord word) :
    ∃ first run, capitalize word = first :: run ∧ first.isLower = false ∧
      (∀ c ∈ run, c.isLower) ∧ (first :: run).map Char.toLower = word.map Char.toLower := by
  obtain ⟨hne, halpha⟩ := hword
  cases word with
  | nil => contradiction
  | cons c cs =>
    rw [List.forall_mem_cons] at halpha
    obtain ⟨first, hupper, hfirst, hlower⟩ := upperChar_of_isAlpha halpha.1
    have hcs (d : Char) (hd : d ∈ cs) := lowerChar_of_isAlpha (halpha.2 d hd)
    have hrun : cs.flatMap lowerChar = cs.map Char.toLower := by
      rw [List.map_eq_flatMap]
      exact List.flatMap_congr fun d hd => (hcs d hd).1
    refine ⟨first, cs.map Char.toLower, ?_, hfirst, ?_, ?_⟩
    · rw [capitalize, hupper, hrun, List.singleton_append]
    · exact List.forall_mem_map.mpr fun d hd => (hcs d hd).2.1
    · rw [List.map_cons, List.map_cons, hlower, List.map_map]
      exact congrArg _ (List.map_congr_left fun d hd => (hcs d hd).2.2)

/-- What words become does not start with a small letter. -/
theorem isLower_head?_flatMap_capitalize {words : List (List Char)}
    (hwords : ∀ word ∈ words, IsWord word) :
    ∀ c ∈ (words.flatMap capitalize).head?, c.isLower = false := by
  cases words with
  | nil => simp
  | cons word words =>
    obtain ⟨first, run, hcapital, hfirst, -⟩ := (hwords word List.mem_cons_self).exists_capitalize
    rw [List.flatMap_cons, hcapital]
    rintro _ ⟨⟩
    exact hfirst

/-- **Words are found again**, but for the case of their letters: each starts with the next
character that is no small letter. -/
theorem flatMap_capitalize_eq_iff {words words' : List (List Char)}
    (hwords : ∀ word ∈ words, IsWord word) (hwords' : ∀ word ∈ words', IsWord word) :
    words.flatMap capitalize = words'.flatMap capitalize ↔
      words.map (List.map Char.toLower) = words'.map (List.map Char.toLower) := by
  constructor
  · intro h
    -- The run of small letters behind the first capital is as long as it can be on both sides.
    induction words generalizing words' with
    | nil =>
      cases words' with
      | nil => rfl
      | cons word' words' =>
        obtain ⟨first, run, hcapital, -⟩ := (hwords' word' List.mem_cons_self).exists_capitalize
        simp [hcapital] at h
    | cons word words ih =>
      rw [List.forall_mem_cons] at hwords
      obtain ⟨first, run, hcapital, -, hrun, hword⟩ := hwords.1.exists_capitalize
      cases words' with
      | nil => simp [hcapital] at h
      | cons word' words' =>
        rw [List.forall_mem_cons] at hwords'
        obtain ⟨first', run', hcapital', -, hrun', hword'⟩ := hwords'.1.exists_capitalize
        rw [List.flatMap_cons, List.flatMap_cons, hcapital, hcapital', List.cons_append,
          List.cons_append, List.cons.injEq, run_append_eq_iff hrun hrun'
            (isLower_head?_flatMap_capitalize hwords.2)
            (isLower_head?_flatMap_capitalize hwords'.2)] at h
        obtain ⟨rfl, rfl, hrest⟩ := h
        rw [List.map_cons, List.map_cons, ← hword, ← hword', ih hwords.2 hwords'.2 hrest]
  · intro h
    have hcase (words : List (List Char)) : words.flatMap capitalize =
        (words.map (List.map Char.toLower)).flatMap capitalize := by
      rw [List.flatMap_map]
      exact List.flatMap_congr fun word _ => (capitalize_map_toLower word).symm
    rw [hcase, h, ← hcase]

/-! ## Table names -/

theorem isWord_of_mem_segments {name : String} (hname : ∀ c ∈ name.toList, c.isAlpha ∨ c = '_') :
    ∀ word ∈ segments name, IsWord word := by
  intro word hword
  obtain ⟨hword, hne⟩ := List.mem_filter.mp hword
  refine ⟨by simpa using hne, fun c hc => ?_⟩
  obtain ⟨hmem, hsep⟩ := of_mem_pieces hword c hc
  exact (hname c hmem).resolve_right (by simpa using hsep)

/-- **When type names collide.** Two tables with names of ASCII letters and underscores have types
of the same name exactly when the segments of their names that are not empty are the same, one by
one, but for the case of the letters. -/
theorem pascalCase_eq_iff {name name' : String} (hname : ∀ c ∈ name.toList, c.isAlpha ∨ c = '_')
    (hname' : ∀ c ∈ name'.toList, c.isAlpha ∨ c = '_') :
    pascalCase name = pascalCase name' ↔
      (segments name).map (List.map Char.toLower) =
        (segments name').map (List.map Char.toLower) := by
  rw [pascalCase_eq, pascalCase_eq, String.ofList_inj]
  exact flatMap_capitalize_eq_iff (isWord_of_mem_segments hname) (isWord_of_mem_segments hname')

/-- Underscores that only make empty segments, and the letter case, are forgotten; an underscore
between letters is not. -/
theorem names_of_two_segments :
    pascalCase "a__b" = pascalCase "_A_B" ∧ pascalCase "_A_B" = pascalCase "a_b" ∧
      pascalCase "ab" ≠ pascalCase "a_b" := by
  refine ⟨(pascalCase_eq_iff (by simp) (by simp)).mpr (by decide),
    (pascalCase_eq_iff (by simp) (by simp)).mpr (by decide), fun h => ?_⟩
  have hsegments := (pascalCase_eq_iff (by simp) (by simp)).mp h
  exact absurd hsegments (by decide)

/-! ## Line feeds -/

/-- No letter maps to a line feed: all counterparts come later. -/
theorem counterpart_ne_feed {runs : List CaseRun} (hruns : ∀ r ∈ runs, 0xA < r.target) {c : Char}
    (hc : c ≠ '\n') : counterpart runs c ≠ '\n' := by
  rcases counterpart_cases runs c with h | ⟨r, hr, n, hmap, h⟩
  · rwa [h]
  · obtain ⟨-, rfl⟩ := CaseRun.map?_eq_some_iff.mp hmap
    rw [h]
    intro hfeed
    have htarget := hruns r hr
    have hnat := congrArg Char.toNat hfeed
    rcases toNat_ofNat (r.target + (c.toNat - r.first)) with h | h
    · have hfeed : '\n'.toNat = 0xA := rfl
      omega
    · rw [h] at hnat
      contradiction

/-- In ASCII no other character becomes a line feed in another letter case. -/
theorem case_ne_feed {c : Char} (hascii : c.toNat < 0x80) (hc : c ≠ '\n') :
    c.toUpper ≠ '\n' ∧ c.toLower ≠ '\n' := by
  revert hc
  exact of_ascii hascii (by decide)

theorem feed_notMem_upperChar {c : Char} (hc : c ≠ '\n') : '\n' ∉ upperChar c := by
  have hforms : ∀ e ∈ uppercaseExpansions, '\n' ∉ e.2.map Char.ofNat := by decide +kernel
  have hruns : ∀ r ∈ uppercaseRuns, 0xA < r.target := by decide +kernel
  rw [upperChar]
  split
  · rename_i hascii
    simpa using (case_ne_feed hascii hc).1.symm
  · split
    · rename_i form hform
      exact hforms _ (List.mem_of_find?_eq_some hform)
    · simpa using (counterpart_ne_feed hruns hc).symm

theorem feed_notMem_lowerChar {c : Char} (hc : c ≠ '\n') : '\n' ∉ lowerChar c := by
  have hruns : ∀ r ∈ lowercaseRuns, 0xA < r.target := by decide +kernel
  rw [lowerChar]
  split
  · rename_i hascii
    simpa using (case_ne_feed hascii hc).2.symm
  · split
    · decide
    · simpa using (counterpart_ne_feed hruns hc).symm

/-- **Type names stand on one line**, if the names of the tables do. -/
theorem feed_notMem_pascalCase {name : String} (hname : '\n' ∉ name.toList) :
    '\n' ∉ (pascalCase name).toList := by
  rw [pascalCase, String.toList_ofList, List.mem_flatMap]
  rintro ⟨word, hword, hfeed⟩
  have hchar {c : Char} (hc : c ∈ word) : c ≠ '\n' :=
    fun h => hname (h ▸ (of_mem_pieces hword c hc).1)
  cases word with
  | nil => contradiction
  | cons c cs =>
    rw [capitalize, List.mem_append, List.mem_flatMap] at hfeed
    rcases hfeed with hfeed | ⟨d, hd, hfeed⟩
    · exact feed_notMem_upperChar (hchar List.mem_cons_self) hfeed
    · exact feed_notMem_lowerChar (hchar (List.mem_cons_of_mem c hd)) hfeed

end SchemaWorkbench.Export
