import SchemaWorkbench.Text.Casing

/-!
# Texts that lowercasing does not change

The lowercase form of a text is not made character by character: a capital sigma looks at what
stands around it, and some characters become two. Neither plays a part in a text that is its own
lowercase form. No character becomes nothing, so that a text which does not grow has one character
for each, and a capital sigma is changed everywhere. Such texts are therefore those of characters
that are their own lowercase forms, and they can be put together and cut.

## Main results

* `lower_eq_self_iff`: the texts that lowercasing does not change
* `lower_append_eq_self`: they can be put together
-/

namespace SchemaWorkbench.Text

/-- A capital sigma is changed, whichever of its forms it takes. -/
theorem lowerChar_sigma : lowerChar 'Σ' = ['σ'] := by
  decide +kernel

theorem length_lowerChar_pos (c : Char) : 0 < (lowerChar c).length := by
  rw [lowerChar]
  split
  · exact Nat.one_pos
  · split <;> exact Nat.succ_pos _

/-- No character is lost. -/
theorem length_le_length_lowerAfter (before cs : List Char) :
    cs.length ≤ (lowerAfter before cs).length := by
  induction cs generalizing before with
  | nil => exact Nat.le_refl _
  | cons c cs ih =>
    have hrest := ih (c :: before)
    rw [lowerAfter, List.length_append, List.length_cons]
    split
    · rw [List.length_singleton]
      omega
    · have hpos := length_lowerChar_pos c
      omega

/-- Whether a text is its own lowercase form does not depend on what stands before it. -/
theorem lowerAfter_eq_self_iff {before cs : List Char} :
    lowerAfter before cs = cs ↔ ∀ c ∈ cs, lowerChar c = [c] := by
  induction cs generalizing before with
  | nil => simp [lowerAfter]
  | cons c cs ih =>
    rw [List.forall_mem_cons, lowerAfter]
    by_cases hsigma : c = 'Σ'
    · -- Both small forms differ from the capital one, in the text and on their own.
      subst hsigma
      rw [if_pos rfl, lowerChar_sigma]
      split <;> simp
    · rw [if_neg hsigma, ← ih]
      constructor
      · intro h
        -- The form of the first character leaves room for one character only.
        have hlength := congrArg List.length h
        have hrest := length_le_length_lowerAfter (c :: before) cs
        have hpos := length_lowerChar_pos c
        rw [List.length_append, List.length_cons] at hlength
        exact List.append_inj h (by rw [List.length_singleton]; omega)
      · rintro ⟨hc, hcs⟩
        rw [hc, hcs, List.singleton_append]

/-- **The texts that lowercasing does not change** are those of characters that are their own
lowercase forms. -/
theorem lower_eq_self_iff {cs : List Char} : lower cs = cs ↔ ∀ c ∈ cs, lowerChar c = [c] :=
  lowerAfter_eq_self_iff

/-- Texts that lowercasing does not change can be put together. -/
theorem lower_append_eq_self {cs ds : List Char} (hcs : lower cs = cs) (hds : lower ds = ds) :
    lower (cs ++ ds) = cs ++ ds := by
  rw [lower_eq_self_iff] at hcs hds ⊢
  exact List.forall_mem_append.mpr ⟨hcs, hds⟩

end SchemaWorkbench.Text
