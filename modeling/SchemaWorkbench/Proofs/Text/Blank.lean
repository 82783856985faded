import Mathlib.Data.List.DropRight
import SchemaWorkbench.Text.Casing
import SchemaWorkbench.Text.Whitespace

/-!
# Trimmed texts and texts that are not blank

Trimming a text once is enough. What it leaves of a text that is not blank is not blank either, and
neither is what such a text becomes in another letter case: no letter maps to whitespace. The
letters are those of a table of runs, so that it is enough to see that no run of counterparts meets
a range of whitespace.

## Main definitions

* `whitespaceRanges`: the code points of whitespace as ranges
* `Casing.CaseRun.AvoidsWhitespace`: no counterpart of a run of letters is whitespace

## Main results

* `trim_trim`: a trimmed text is not trimmed further
* `trim_eq_self_iff`: which texts are trimmed
* `trim_append_append`: what stands between trimmed texts is not trimmed
* `head?_trim`: what a trimmed text starts with
* `trim_gap_append`, `trim_append_gap`: whitespace at the ends of a text is trimmed
* `isBlank_trim`: what is left of a text by trimming is not blank
* `isBlank_lower`, `isBlank_upper`: the letter case does not make a text blank
-/

namespace SchemaWorkbench.Text

open Casing

/-! ## Trimming -/

theorem trimEnd_eq_rdropWhile (cs : List Char) : trimEnd cs = cs.rdropWhile isWhitespace := rfl

/-- A trimmed text does not start with whitespace: it starts with the same character as what is left
of the text after trimming at the start. -/
theorem trimStart_trim (cs : List Char) : trimStart (trim cs) = trim cs := by
  obtain ⟨after, hafter⟩ : trim cs <+: trimStart cs := List.rdropWhile_prefix _ _
  cases htrim : trim cs with
  | nil => rfl
  | cons c ds =>
    rw [htrim] at hafter
    have hhead := List.head?_dropWhile_not isWhitespace cs
    rw [← trimStart, ← hafter, List.cons_append, List.head?_cons] at hhead
    exact List.dropWhile_cons_of_neg (by simpa using hhead)

/-- A trimmed text is not trimmed further. -/
@[simp] theorem trim_trim (cs : List Char) : trim (trim cs) = trim cs := by
  rw [trim, trimStart_trim, trim, trimEnd_eq_rdropWhile, trimEnd_eq_rdropWhile,
    List.rdropWhile_idempotent]

/-- A text is trimmed exactly when it neither starts nor ends with whitespace. -/
theorem trim_eq_self_iff {cs : List Char} : trim cs = cs ↔
    (∀ c ∈ cs.head?, isWhitespace c = false) ∧ ∀ c ∈ cs.getLast?, isWhitespace c = false := by
  cases cs with
  | nil => simp
  | cons c cs =>
    have hne : c :: cs ≠ [] := List.cons_ne_nil c cs
    rw [List.getLast?_eq_some_getLast hne]
    simp only [List.head?_cons, Option.mem_some_iff, forall_eq']
    constructor
    · intro h
      have hstart : trimStart (c :: cs) = c :: cs := by rw [← h, trimStart_trim]
      have hend : (c :: cs).rdropWhile isWhitespace = c :: cs := by
        rw [← trimEnd_eq_rdropWhile]
        rwa [trim, hstart] at h
      have hhead := List.head?_dropWhile_not isWhitespace (c :: cs)
      rw [← trimStart, hstart] at hhead
      exact ⟨by simpa using hhead, by simpa using List.rdropWhile_eq_self_iff.mp hend hne⟩
    · rintro ⟨hhead, hlast⟩
      have hstart : trimStart (c :: cs) = c :: cs :=
        List.dropWhile_cons_of_neg (by simpa using hhead)
      rw [trim, hstart, trimEnd_eq_rdropWhile, List.rdropWhile_eq_self_iff]
      intro _
      simpa using hlast

/-- What stands between trimmed texts is not trimmed. -/
theorem trim_append_append {cs ds : List Char} (hcs : trim cs = cs) (hds : trim ds = ds)
    (hcsne : cs ≠ []) (hdsne : ds ≠ []) (mid : List Char) :
    trim (cs ++ mid ++ ds) = cs ++ mid ++ ds := by
  rw [trim_eq_self_iff] at hcs hds ⊢
  rw [List.append_assoc, List.head?_append_of_ne_nil _ hcsne, ← List.append_assoc,
    List.getLast?_append_of_ne_nil _ hdsne]
  exact ⟨hcs.1, hds.2⟩

/-- Whitespace at the start is trimmed. -/
theorem trim_cons_of_isWhitespace {c : Char} (hc : isWhitespace c) (cs : List Char) :
    trim (c :: cs) = trim cs := by
  rw [trim, trimStart, List.dropWhile_cons_of_pos hc]
  rfl

/-- Whitespace before a text is trimmed. -/
theorem trim_gap_append {gap : List Char} (hgap : ∀ c ∈ gap, isWhitespace c) (cs : List Char) :
    trim (gap ++ cs) = trim cs := by
  rw [trim, trimStart, List.dropWhile_append_of_pos hgap]
  rfl

/-- Whitespace after a text is trimmed. -/
theorem trim_append_gap {gap : List Char} (hgap : ∀ c ∈ gap, isWhitespace c) (cs : List Char) :
    trim (cs ++ gap) = trim cs := by
  have hend (ds : List Char) : trimEnd (ds ++ gap) = trimEnd ds := by
    rw [trimEnd, List.reverse_append, List.dropWhile_append_of_pos (by simpa using hgap)]
    rfl
  rw [trim, trim, trimStart, trimStart, List.dropWhile_append]
  split
  · -- Nothing is left of the text itself, and nothing of the whitespace after it.
    rename_i hblank
    rw [List.dropWhile_eq_nil_iff.mpr hgap, List.isEmpty_iff.mp hblank]
  · exact hend _

/-- Trimming only leaves characters out. -/
theorem trim_sublist (cs : List Char) : (trim cs).Sublist cs := by
  have hend : (trim cs).Sublist (trimStart cs) := (List.rdropWhile_prefix _ _).sublist
  exact hend.trans (List.dropWhile_sublist _)

/-- A text is whitespace, what is left by trimming, and whitespace. -/
theorem exists_eq_append_trim_append (cs : List Char) :
    ∃ front back, front ++ trim cs ++ back = cs ∧ (∀ c ∈ front, isWhitespace c) ∧
      ∀ c ∈ back, isWhitespace c := by
  refine ⟨cs.takeWhile isWhitespace, (trimStart cs).rtakeWhile isWhitespace, ?_,
    fun c => List.mem_takeWhile_imp, fun c => List.mem_rtakeWhile_imp⟩
  rw [trim, trimEnd_eq_rdropWhile, List.append_assoc, List.rdropWhile_append_rtakeWhile, trimStart,
    List.takeWhile_append_dropWhile]

/-- A trimmed text starts with the first character of the text that is no whitespace. -/
theorem head?_trim (cs : List Char) : (trim cs).head? = cs.find? (fun c => !isWhitespace c) := by
  have hspace {ds : List Char} (hds : ∀ c ∈ ds, isWhitespace c) :
      ds.find? (fun c => !isWhitespace c) = none :=
    List.find?_eq_none.mpr fun c hc => by simp [hds c hc]
  obtain ⟨front, back, hcs, hfront, hback⟩ := exists_eq_append_trim_append cs
  rw [← congrArg (List.find? _) hcs, List.find?_append, List.find?_append, hspace hfront,
    hspace hback, Option.none_or, Option.or_none]
  cases htrim : trim cs with
  | nil => rfl
  | cons c rest =>
    have hc := (trim_eq_self_iff.mp (trim_trim cs)).1 c (by rw [htrim]; rfl)
    rw [List.find?_cons_of_pos (by simp [hc]), List.head?_cons]

theorem isBlank_eq_false_iff {cs : List Char} :
    isBlank cs = false ↔ ∃ c ∈ cs, isWhitespace c = false := by
  simp [isBlank]

/-- What is left of a text by trimming is not blank: it does not end with whitespace. -/
theorem isBlank_trim {cs : List Char} (h : trim cs ≠ []) : isBlank (trim cs) = false := by
  have hlast : isWhitespace ((trim cs).getLast h) = false :=
    Bool.eq_false_iff.mpr (List.rdropWhile_last_not isWhitespace (trimStart cs) h)
  exact isBlank_eq_false_iff.mpr ⟨_, List.getLast_mem h, hlast⟩

/-! ## Whitespace as ranges of code points -/

/-- The code points of whitespace, as ranges with their ends. -/
def whitespaceRanges : List (Nat × Nat) :=
  [ (0x9, 0xD), (0x20, 0x20), (0x85, 0x85), (0xA0, 0xA0), (0x1680, 0x1680), (0x2000, 0x200A),
    (0x2028, 0x2029), (0x202F, 0x202F), (0x205F, 0x205F), (0x3000, 0x3000) ]

theorem isWhitespace_iff {c : Char} :
    isWhitespace c ↔ ∃ r ∈ whitespaceRanges, r.1 ≤ c.toNat ∧ c.toNat ≤ r.2 := by
  simp only [isWhitespace, whitespaceRanges, Bool.or_eq_true, Bool.and_eq_true, decide_eq_true_eq,
    beq_iff_eq, List.mem_cons, List.not_mem_nil, or_false, exists_eq_or_imp, ↓existsAndEq, true_and]
  omega

/-- A number that is no code point stands for the character zero. -/
theorem toNat_ofNat (n : Nat) : (Char.ofNat n).toNat = n ∨ (Char.ofNat n).toNat = 0 := by
  by_cases h : n.isValidChar
  · exact .inl (by rw [Char.ofNat, dif_pos h]; rfl)
  · exact .inr (by rw [Char.ofNat, dif_neg h]; rfl)

/-- What holds of the first 128 code points holds of the characters of ASCII. -/
@[elab_as_elim] theorem of_ascii {P : Char → Prop} {c : Char} (hascii : c.toNat < 0x80)
    (h : ∀ n < 0x80, P (Char.ofNat n)) : P c := by
  have hc := h c.toNat hascii
  rwa [Char.ofNat_toNat] at hc

/-! ## Runs of letters -/

theorem Casing.CaseRun.map?_eq_some_iff {r : CaseRun} {n m : Nat} : r.map? n = some m ↔
    (r.first ≤ n ∧ n ≤ r.last ∧ (n - r.first) % r.stride = 0) ∧ r.target + (n - r.first) = m := by
  simp [CaseRun.map?]

/-- The counterpart of a character is the character itself or that of a run. -/
theorem counterpart_cases (runs : List CaseRun) (c : Char) : counterpart runs c = c ∨
    ∃ r ∈ runs, ∃ n, r.map? c.toNat = some n ∧ counterpart runs c = Char.ofNat n := by
  cases hn : runs.findSome? (·.map? c.toNat) with
  | none => exact .inl (by rw [counterpart, hn])
  | some n =>
    obtain ⟨r, hr, hmap⟩ := List.exists_of_findSome?_eq_some hn
    exact .inr ⟨r, hr, n, hmap, by rw [counterpart, hn]⟩

/-! ## Letters do not map to whitespace -/

/-- No counterpart of a letter of the run is whitespace. -/
def Casing.CaseRun.AvoidsWhitespace (r : CaseRun) : Prop :=
  ∀ s ∈ whitespaceRanges, r.target + (r.last - r.first) < s.1 ∨ s.2 < r.target

instance (r : CaseRun) : Decidable r.AvoidsWhitespace :=
  inferInstanceAs (Decidable (∀ s ∈ whitespaceRanges, _))

theorem avoidsWhitespace_lowercaseRuns : ∀ r ∈ lowercaseRuns, r.AvoidsWhitespace := by
  decide +kernel

theorem avoidsWhitespace_uppercaseRuns : ∀ r ∈ uppercaseRuns, r.AvoidsWhitespace := by
  decide +kernel

theorem exists_mem_uppercaseExpansions :
    ∀ e ∈ uppercaseExpansions, ∃ n ∈ e.2, isWhitespace (Char.ofNat n) = false := by
  decide +kernel

theorem isWhitespace_counterpart {runs : List CaseRun} (hruns : ∀ r ∈ runs, r.AvoidsWhitespace)
    {c : Char} (hc : isWhitespace c = false) : isWhitespace (counterpart runs c) = false := by
  rcases counterpart_cases runs c with h | ⟨r, hr, n, hmap, h⟩
  · rwa [h]
  · obtain ⟨⟨hfirst, hlast, -⟩, rfl⟩ := CaseRun.map?_eq_some_iff.mp hmap
    rw [h, ← Bool.not_eq_true, isWhitespace_iff]
    rintro ⟨s, hs, hlow, hhigh⟩
    have havoids := hruns r hr s hs
    -- The character zero stands for numbers that are no code points; it is no whitespace either.
    have hzero : ∀ s ∈ whitespaceRanges, 0 < s.1 := by decide
    have hs := hzero s hs
    rcases toNat_ofNat (r.target + (c.toNat - r.first)) with h | h <;> omega

/-- In ASCII the letter case makes nothing whitespace. -/
theorem isWhitespace_case_of_ascii {c : Char} (hascii : c.toNat < 0x80)
    (hc : isWhitespace c = false) :
    isWhitespace c.toLower = false ∧ isWhitespace c.toUpper = false := by
  revert hc
  exact of_ascii hascii (by decide +kernel)

/-- The lowercase form of a character other than whitespace holds one. -/
theorem exists_mem_lowerChar {c : Char} (hc : isWhitespace c = false) :
    ∃ d ∈ lowerChar c, isWhitespace d = false := by
  rw [lowerChar]
  split
  · rename_i hascii
    exact ⟨_, List.mem_singleton_self _, (isWhitespace_case_of_ascii hascii hc).1⟩
  · split
    · exact ⟨'i', by simp, by decide⟩
    · exact ⟨_, by simp, isWhitespace_counterpart avoidsWhitespace_lowercaseRuns hc⟩

/-- The uppercase form of a character other than whitespace holds one. -/
theorem exists_mem_upperChar {c : Char} (hc : isWhitespace c = false) :
    ∃ d ∈ upperChar c, isWhitespace d = false := by
  rw [upperChar]
  split
  · rename_i hascii
    exact ⟨_, List.mem_singleton_self _, (isWhitespace_case_of_ascii hascii hc).2⟩
  · split
    · rename_i form hform
      obtain ⟨n, hn, hd⟩ := exists_mem_uppercaseExpansions _ (List.mem_of_find?_eq_some hform)
      exact ⟨Char.ofNat n, List.mem_map_of_mem hn, hd⟩
    · exact ⟨_, by simp, isWhitespace_counterpart avoidsWhitespace_uppercaseRuns hc⟩

theorem isBlank_upper {cs : List Char} (h : isBlank cs = false) : isBlank (upper cs) = false := by
  rw [isBlank_eq_false_iff] at h ⊢
  obtain ⟨c, hmem, hc⟩ := h
  obtain ⟨d, hd, hdc⟩ := exists_mem_upperChar hc
  exact ⟨d, List.mem_flatMap.mpr ⟨c, hmem, hd⟩, hdc⟩

theorem isBlank_lowerAfter {cs : List Char} (h : isBlank cs = false) (before : List Char) :
    isBlank (lowerAfter before cs) = false := by
  rw [isBlank_eq_false_iff] at h ⊢
  induction cs generalizing before with
  | nil => simp at h
  | cons c cs ih =>
    rw [lowerAfter]
    obtain ⟨d, hmem, hd⟩ := h
    rcases List.mem_cons.mp hmem with rfl | hmem
    · -- A capital sigma is a letter in both of its small forms.
      have hform : ∃ e ∈
          (if d = 'Σ' then [if endsWord before cs then 'ς' else 'σ'] else lowerChar d),
          isWhitespace e = false := by
        split
        · refine ⟨_, List.mem_singleton_self _, ?_⟩
          split <;> decide
        · exact exists_mem_lowerChar hd
      obtain ⟨e, he, hblank⟩ := hform
      exact ⟨e, List.mem_append_left _ he, hblank⟩
    · obtain ⟨e, he, hblank⟩ := ih ⟨d, hmem, hd⟩ (c :: before)
      exact ⟨e, List.mem_append_right _ he, hblank⟩

theorem isBlank_lower {cs : List Char} (h : isBlank cs = false) : isBlank (lower cs) = false :=
  isBlank_lowerAfter h []

end SchemaWorkbench.Text
