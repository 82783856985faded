import SchemaWorkbench.Proofs.Text.Blank
import SchemaWorkbench.Proofs.Text.LetterCase

/-!
# Texts in capitals

The uppercase form of a text is its own uppercase form. Its characters are made one by one, so that
this is a fact about single characters: no letter with an uppercase form of its own occurs in such a
form. The letters are many, but as the bits of a number a set of them is compared with another one
at once.

Lowercasing a text first can change its capitals, but not if the lowercase form is one in ASCII.
Beyond ASCII only the Kelvin sign has such a form, so that the text is one in ASCII itself and
differs from its lowercase form in the case of ASCII letters only.

## Main definitions

* `bits`: a set of numbers as the bits of a number
* `Casing.changing`, `Casing.forms`: the letters with an uppercase form of their own, and what
  occurs in such a form

## Main results

* `upperChar_of_mem`: what a character becomes does not change any more
* `upper_upper`: a text in capitals is its own uppercase form
* `ascii_of_lowerAfter`: nearly every text with a lowercase form in ASCII is one in ASCII
* `upper_lower`: such a text has the same capitals as its lowercase form
-/

namespace SchemaWorkbench.Text

open Casing

/-! ## Sets of numbers -/

/-- The union of sets that are given by the bits of numbers. -/
def union (sets : List Nat) : Nat :=
  sets.foldr (· ||| ·) 0

/-- The numbers of all groups, as the bits of a number. -/
def bits (groups : List (List Nat)) : Nat :=
  union (groups.map fun ns => union (ns.map (Nat.pow 2)))

theorem testBit_union {sets : List Nat} {n : Nat} :
    (union sets).testBit n ↔ ∃ set ∈ sets, set.testBit n := by
  induction sets with
  | nil => simp [union]
  | cons set sets ih =>
    rw [union, List.foldr_cons, ← union, Nat.testBit_or, Bool.or_eq_true, ih]
    simp

theorem testBit_bits {groups : List (List Nat)} {n : Nat} :
    (bits groups).testBit n ↔ n ∈ groups.flatten := by
  simp [bits, testBit_union, Nat.testBit_two_pow, Nat.pow_eq]

theorem notMem_of_bits {gs hs : List (List Nat)} (h : bits gs &&& bits hs = 0) {n : Nat}
    (hn : n ∈ gs.flatten) : n ∉ hs.flatten := by
  intro hmem
  have hboth : (bits gs &&& bits hs).testBit n := by
    rw [Nat.testBit_and, testBit_bits.mpr hn, testBit_bits.mpr hmem]
    rfl
  rw [h, Nat.zero_testBit] at hboth
  contradiction

/-! ## Letters -/

/-- The letters of a run. -/
def Casing.CaseRun.letters (r : CaseRun) : List Nat :=
  List.range' r.first ((r.last - r.first) / r.stride + 1) r.stride

/-- What the letters of a run map to. -/
def Casing.CaseRun.counterparts (r : CaseRun) : List Nat :=
  List.range' r.target ((r.last - r.first) / r.stride + 1) r.stride

theorem Casing.CaseRun.mem_of_map?_eq_some {r : CaseRun} {n m : Nat} (h : r.map? n = some m) :
    n ∈ r.letters ∧ m ∈ r.counterparts := by
  obtain ⟨⟨hfirst, hlast, hstride⟩, rfl⟩ := CaseRun.map?_eq_some_iff.mp h
  have hsteps : r.stride * ((n - r.first) / r.stride) = n - r.first :=
    Nat.mul_div_cancel' (Nat.dvd_of_mod_eq_zero hstride)
  have hle : (n - r.first) / r.stride ≤ (r.last - r.first) / r.stride :=
    Nat.div_le_div_right (by omega)
  rw [letters, counterparts, List.mem_range', List.mem_range']
  exact ⟨⟨_, Nat.lt_succ_of_le hle, by omega⟩, ⟨_, Nat.lt_succ_of_le hle, by omega⟩⟩

/-- The letters that have an uppercase form of their own: those of ASCII, those whose form has
several characters and those with a single counterpart. -/
def Casing.changing : List (List Nat) :=
  List.range' 0x61 26 :: uppercaseExpansions.map (·.1) :: uppercaseRuns.map CaseRun.letters

/-- What occurs in the uppercase forms of letters beyond ASCII. -/
def Casing.forms : List (List Nat) :=
  uppercaseExpansions.map (·.2) ++ uppercaseRuns.map CaseRun.counterparts

/-- What occurs in a form does not change any more. -/
theorem notMem_changing {n : Nat} (h : n ∈ forms.flatten) : n ∉ changing.flatten := by
  have hdisjoint : bits forms &&& bits changing = 0 := by decide +kernel
  exact notMem_of_bits hdisjoint h

/-! ## Characters -/

/-- In ASCII only the small letters change. -/
theorem toUpper_eq_self {c : Char} (h : ¬ (0x61 ≤ c.toNat ∧ c.toNat ≤ 0x7A)) : c.toUpper = c := by
  refine dif_neg ?_
  rw [UInt32.le_iff_toNat_le, UInt32.le_iff_toNat_le]
  exact h

/-- Another character is its own uppercase form. -/
theorem upperChar_eq_self {c : Char} (h : c.toNat ∉ changing.flatten) : upperChar c = [c] := by
  simp only [changing, List.flatten_cons, List.mem_append, not_or] at h
  obtain ⟨hascii, hexpansions, hruns⟩ := h
  have hfind : uppercaseExpansions.find? (·.1 == c.toNat) = none := by
    rw [List.find?_eq_none]
    intro e he heq
    exact hexpansions (beq_iff_eq.mp heq ▸ List.mem_map_of_mem he)
  have hrun : uppercaseRuns.findSome? (·.map? c.toNat) = none := by
    rw [List.findSome?_eq_none_iff]
    intro r hr
    by_contra hsome
    obtain ⟨m, hm⟩ := Option.ne_none_iff_exists'.mp hsome
    exact hruns (List.mem_flatten_of_mem (List.mem_map_of_mem hr)
      (CaseRun.mem_of_map?_eq_some hm).1)
  rw [upperChar]
  split
  · rw [toUpper_eq_self]
    rw [List.mem_range'_1] at hascii
    omega
  · rw [hfind, counterpart, hrun]

/-- What occurs in a form is its own uppercase form. -/
theorem upperChar_ofNat {n : Nat} (h : n ∈ forms.flatten) :
    upperChar (Char.ofNat n) = [Char.ofNat n] := by
  rcases toNat_ofNat n with hn | hn
  · apply upperChar_eq_self
    rw [hn]
    exact notMem_changing h
  · -- The character zero stands for numbers that are no code points; it is no letter either.
    rw [← Char.ofNat_toNat (Char.ofNat n), hn]
    decide

/-- **What a character becomes** does not change any more. -/
theorem upperChar_of_mem {c d : Char} (hd : d ∈ upperChar c) : upperChar d = [d] := by
  by_cases hascii : c.toNat < 0x80
  · have hc : upperChar c.toUpper = [c.toUpper] := of_ascii hascii (by decide)
    rw [upperChar, if_pos hascii, List.mem_singleton] at hd
    rwa [hd]
  · cases hform : uppercaseExpansions.find? (·.1 == c.toNat) with
    | some e =>
      rw [upperChar, if_neg hascii, hform] at hd
      obtain ⟨n, hn, rfl⟩ := List.mem_map.mp hd
      have hform := List.mem_map_of_mem (f := (·.2)) (List.mem_of_find?_eq_some hform)
      exact upperChar_ofNat (List.mem_flatten_of_mem (List.mem_append_left _ hform) hn)
    | none =>
      have hc : upperChar c = [counterpart uppercaseRuns c] := by
        rw [upperChar, if_neg hascii, hform]
      rw [hc, List.mem_singleton] at hd
      rcases counterpart_cases uppercaseRuns c with hself | ⟨r, hr, n, hmap, hn⟩
      · rw [hd, hself, hc, hself]
      · rw [hd, hn]
        have hform := List.mem_map_of_mem (f := CaseRun.counterparts) hr
        exact upperChar_ofNat (List.mem_flatten_of_mem (List.mem_append_right _ hform)
          (CaseRun.mem_of_map?_eq_some hmap).2)

/-- **A text in capitals** is its own uppercase form. -/
theorem upper_upper (cs : List Char) : upper (upper cs) = upper cs := by
  have hcs : ∀ d ∈ upper cs, upperChar d = [d] := by
    intro d hd
    obtain ⟨c, -, hc⟩ := List.mem_flatMap.mp hd
    exact upperChar_of_mem hc
  rw [upper, List.flatMap_congr hcs, List.flatMap_singleton']

/-! ## The capitals of a lowercase form -/

/-- The uppercase form of a text does not depend on the case of ASCII letters. -/
theorem upper_map_toLower (cs : List Char) : upper (cs.map Char.toLower) = upper cs := by
  have hchar (c : Char) : upperChar c.toLower = upperChar c :=
    apply_toLower (by decide) c
  rw [upper, upper, List.flatMap_map]
  exact List.flatMap_congr fun c _ => hchar c

/-- The runs go to code points beyond ASCII, except that the Kelvin sign goes to the letter k. -/
theorem lowercaseRuns_beyond_ascii : ∀ r ∈ lowercaseRuns,
    r.first = r.last ∧ r.target = 0x6B ∨
      0x80 ≤ r.target ∧ (r.target + (r.last - r.first) < 0xD800 ∨
        0xDFFF < r.target ∧ r.target + (r.last - r.first) < 0x110000) := by
  decide +kernel

/-- Beyond ASCII only the Kelvin sign has a lowercase form in ASCII. -/
theorem ascii_of_lowerChar {c : Char} (h : ∀ d ∈ lowerChar c, d.toNat < 0x80 ∧ d ≠ 'k') :
    c.toNat < 0x80 := by
  by_contra hc
  rw [lowerChar, if_neg hc] at h
  split at h
  · exact absurd (h '\u0307' (by simp)).1 (by decide)
  · have hform := h _ (List.mem_singleton_self _)
    rcases counterpart_cases lowercaseRuns c with h | ⟨r, hr, n, hmap, h⟩
    · rw [h] at hform
      exact hc hform.1
    · obtain ⟨⟨hfirst, hlast, -⟩, rfl⟩ := CaseRun.map?_eq_some_iff.mp hmap
      rw [h] at hform
      rcases lowercaseRuns_beyond_ascii r hr with ⟨hone, hk⟩ | ⟨hlow, hpoint⟩
      · have hzero : c.toNat - r.first = 0 := by omega
        rw [hk, hzero] at hform
        exact hform.2 rfl
      · have hvalid : (r.target + (c.toNat - r.first)).isValidChar := by
          rw [Nat.isValidChar]
          omega
        rw [Char.ofNat, dif_pos hvalid] at hform
        have hform : r.target + (c.toNat - r.first) < 0x80 := hform.1
        omega

theorem ascii_of_lowerAfter {before cs : List Char}
    (h : ∀ d ∈ lowerAfter before cs, d.toNat < 0x80 ∧ d ≠ 'k') : ∀ c ∈ cs, c.toNat < 0x80 := by
  induction cs generalizing before with
  | nil => exact List.forall_mem_nil _
  | cons c cs ih =>
    rw [lowerAfter, List.forall_mem_append] at h
    obtain ⟨hform, hrest⟩ := h
    refine List.forall_mem_cons.mpr ⟨?_, ih hrest⟩
    by_cases hsigma : c = 'Σ'
    · -- Both small forms of a capital sigma are beyond ASCII, like itself.
      rw [if_pos hsigma, List.forall_mem_singleton] at hform
      split at hform <;> exact absurd hform.1 (by decide)
    · rw [if_neg hsigma] at hform
      exact ascii_of_lowerChar hform

theorem lowerAfter_of_ascii {before cs : List Char} (h : ∀ c ∈ cs, c.toNat < 0x80) :
    lowerAfter before cs = cs.map Char.toLower := by
  induction cs generalizing before with
  | nil => rfl
  | cons c cs ih =>
    obtain ⟨hc, hcs⟩ := List.forall_mem_cons.mp h
    have hsigma : c ≠ 'Σ' := by
      rintro rfl
      exact absurd hc (by decide)
    rw [lowerAfter, if_neg hsigma, lowerChar, if_pos hc, ih hcs]
    rfl

/-- **A text with a lowercase form in ASCII** has the same capitals as that form, unless the form
has the letter that the Kelvin sign becomes. -/
theorem upper_lower {cs : List Char} (h : ∀ d ∈ lower cs, d.toNat < 0x80 ∧ d ≠ 'k') :
    upper (lower cs) = upper cs := by
  rw [lower, lowerAfter_of_ascii (ascii_of_lowerAfter h), upper_map_toLower]

end SchemaWorkbench.Text
