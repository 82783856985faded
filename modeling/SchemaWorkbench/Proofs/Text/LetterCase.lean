import SchemaWorkbench.Proofs.Text.Lowercase
import SchemaWorkbench.Proofs.Text.Pieces
import SchemaWorkbench.Text.Whitespace

/-!
# The case of ASCII letters

Texts that differ only in the case of ASCII letters have the same lowercase form. This does not
follow from the lowercase forms of their characters alone, since a capital sigma looks at what
stands around it. But it only asks whether that is cased or case-ignorable, and a function that
treats each ASCII capital like its small letter cannot tell such texts apart.

## Main results

* `apply_toLower`: what does not tell ASCII capitals from their small letters
* `lower_map_toLower`: the lowercase form of a text
* `trim_map_toLower`, `pieces_map_toLower`: trimming and cutting a text
-/

namespace SchemaWorkbench.Text

open Casing

/-! ## Characters -/

/-- **What does not tell ASCII capitals from their small letters** gives the same for every
character and its small letter. -/
theorem apply_toLower {α : Type} {f : Char → α}
    (h : ∀ n ≤ 0x5A, 0x41 ≤ n → f (Char.ofNat n).toLower = f (Char.ofNat n)) (c : Char) :
    f c.toLower = f c := by
  by_cases hc : 0x41 ≤ c.toNat ∧ c.toNat ≤ 0x5A
  · have hcapital := h c.toNat hc.2 hc.1
    rwa [Char.ofNat_toNat] at hcapital
  · -- Only the capitals have a small letter of their own.
    have hsame : c.toLower = c := by
      refine dif_neg ?_
      rw [ge_iff_le, UInt32.le_iff_toNat_le, UInt32.le_iff_toNat_le]
      exact hc
    rw [hsame]

theorem isWhitespace_toLower (c : Char) : isWhitespace c.toLower = isWhitespace c :=
  apply_toLower (by decide) c

theorem isCased_toLower (c : Char) : isCased c.toLower = isCased c :=
  apply_toLower (by decide) c

/-- The letters of ASCII are not case-ignorable: no range holds any of them. -/
theorem isCaseIgnorable_eq_false {c : Char}
    (hc : 0x41 ≤ c.toNat ∧ c.toNat ≤ 0x5A ∨ 0x61 ≤ c.toNat ∧ c.toNat ≤ 0x7A) :
    isCaseIgnorable c = false := by
  have hranges : ∀ r ∈ caseIgnorableRanges,
      r.2 < 0x41 ∨ 0x5A < r.1 ∧ r.2 < 0x61 ∨ 0x7A < r.1 := by decide +kernel
  rw [isCaseIgnorable, List.any_eq_false]
  intro r hr
  have hletters := hranges r hr
  simp only [Bool.and_eq_true, decide_eq_true_eq]
  omega

theorem isCaseIgnorable_toLower (c : Char) : isCaseIgnorable c.toLower = isCaseIgnorable c := by
  have hletters : ∀ n ≤ 0x5A, 0x41 ≤ n → (Char.ofNat n).toNat = n ∧
      0x61 ≤ (Char.ofNat n).toLower.toNat ∧ (Char.ofNat n).toLower.toNat ≤ 0x7A := by decide
  refine apply_toLower (fun n hn hcapital => ?_) c
  obtain ⟨hself, hsmall⟩ := hletters n hn hcapital
  rw [isCaseIgnorable_eq_false (.inr hsmall), isCaseIgnorable_eq_false (by omega)]

theorem lowerChar_toLower (c : Char) : lowerChar c.toLower = lowerChar c :=
  apply_toLower (by decide) c

/-- A character that is no letter of ASCII is the small letter of no other one. -/
theorem toLower_eq_iff {sep : Char}
    (h : ∀ n ≤ 0x5A, 0x41 ≤ n → (Char.ofNat n).toLower ≠ sep ∧ Char.ofNat n ≠ sep) (c : Char) :
    c.toLower = sep ↔ c = sep := by
  have hiff : (c.toLower = sep) = (c = sep) :=
    apply_toLower (f := fun c => c = sep) (fun n hn hcapital =>
      propext (iff_of_false (h n hn hcapital).1 (h n hn hcapital).2)) c
  rw [hiff]

/-! ## Texts -/

theorem goesOnCased_map_toLower (cs : List Char) :
    goesOnCased (cs.map Char.toLower) = goesOnCased cs := by
  have hignorable : isCaseIgnorable ∘ Char.toLower = isCaseIgnorable :=
    funext isCaseIgnorable_toLower
  rw [goesOnCased, goesOnCased, List.dropWhile_map, hignorable]
  cases cs.dropWhile isCaseIgnorable with
  | nil => rfl
  | cons c cs => exact isCased_toLower c

theorem lowerAfter_map_toLower (before cs : List Char) :
    lowerAfter (before.map Char.toLower) (cs.map Char.toLower) = lowerAfter before cs := by
  induction cs generalizing before with
  | nil => rfl
  | cons c cs ih =>
    have hrest := ih (c :: before)
    have hends : endsWord (before.map Char.toLower) (cs.map Char.toLower) = endsWord before cs := by
      rw [endsWord, endsWord, goesOnCased_map_toLower, goesOnCased_map_toLower]
    have hsigma : c.toLower = 'Σ' ↔ c = 'Σ' := toLower_eq_iff (by decide) c
    rw [List.map_cons] at hrest ⊢
    rw [lowerAfter, lowerAfter, hrest, hends, lowerChar_toLower]
    simp only [hsigma]

/-- **The lowercase form of a text** does not depend on the case of ASCII letters. -/
theorem lower_map_toLower (cs : List Char) : lower (cs.map Char.toLower) = lower cs :=
  lowerAfter_map_toLower [] cs

theorem trim_map_toLower (cs : List Char) :
    trim (cs.map Char.toLower) = (trim cs).map Char.toLower := by
  have hspace : isWhitespace ∘ Char.toLower = isWhitespace := funext isWhitespace_toLower
  rw [trim, trim, trimStart, trimStart, trimEnd, trimEnd, List.dropWhile_map, hspace,
    ← List.map_reverse, List.dropWhile_map, hspace, List.map_reverse]

theorem pieces_map_toLower {p : Char → Bool} (hp : ∀ c, p c.toLower = p c) (cs : List Char) :
    pieces p (cs.map Char.toLower) = (pieces p cs).map (List.map Char.toLower) := by
  induction cs with
  | nil => rfl
  | cons c cs ih =>
    by_cases hc : p c
    · rw [List.map_cons, pieces, pieces, if_pos hc, if_pos (by rwa [hp]), ih]
      rfl
    · obtain ⟨piece, rest, hpieces⟩ := exists_pieces_eq_cons p cs
      rw [hpieces] at ih
      rw [pieces_cons_of_not (by simpa using hc) hpieces, List.map_cons,
        pieces_cons_of_not (by simpa [hp] using hc) ih]
      rfl

end SchemaWorkbench.Text
