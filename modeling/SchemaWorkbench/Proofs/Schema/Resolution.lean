import SchemaWorkbench.Proofs.Text.Uppercase
import SchemaWorkbench.Schema.ColumnType

/-!
# Resolved types

The type that a known word stands for is resolved to itself. An unknown word is resolved to its
capitals, and these can be known although the word is not: the table is asked for the word as it is
written and for its lowercase form, never for its capitals. So `varchar` becomes `VARCHAR`, and that
one `VARCHAR(255)`; and a word of the notation can be written with a letter that is no small letter
of it but has the same capital, such as a dotless `ı`. Apart from the capitals of ten words every
resolved type is resolved to itself, and resolving twice is always enough.

## Main definitions

* `unsettledTypes`: the capitals of known words that stand for another type

## Main results

* `resolve_eq_self_iff`: the texts in capitals that are resolved to themselves
* `resolve_resolve_iff`: the types that stay when they are resolved again
* `resolve_resolve_resolve`: resolving a second time is enough
-/

namespace SchemaWorkbench

open Text

/-- The capitals of known words that stand for another type. -/
def unsettledTypes : List String :=
  ["VARCHAR", "DECIMAL", "ENTIER", "TEXTE", "BOOLEEN", "TEMPS", "LONG_TEXTE", "DATE_SEULE",
    "GRAND_ENTIER", "FLOTTANT"]

/-! ## The table -/

/-- The type that a known word stands for stays, and so do the capitals of the word, unless they
are listed. -/
theorem resolve_typeWords : ∀ entry ∈ typeWords, resolve entry.2 = entry.2 ∧
    (uppercase entry.1 ∉ unsettledTypes → resolve (uppercase entry.1) = uppercase entry.1) := by
  decide +kernel

/-- Those that are listed do not stay, but become a type that does. -/
theorem resolve_unsettledTypes :
    ∀ t ∈ unsettledTypes, resolve t ≠ t ∧ resolve (resolve t) = resolve t := by
  decide +kernel

theorem mem_of_lookup {word type : String} (h : typeWords.lookup word = some type) :
    (word, type) ∈ typeWords := by
  obtain ⟨before, after, happend, -⟩ := List.lookup_eq_some_iff.mp h
  rw [happend]
  exact List.mem_append_right _ List.mem_cons_self

/-- A word is resolved through the table, or it is unknown and becomes its capitals. -/
theorem resolve_cases (word : String) :
    (∃ entry ∈ typeWords, (entry.1 = word ∨ entry.1 = lowercase word) ∧ resolve word = entry.2) ∨
      resolve word = uppercase word := by
  cases hword : typeWords.lookup word with
  | some type => exact .inl ⟨_, mem_of_lookup hword, .inl rfl, by rw [resolve, hword]⟩
  | none =>
    cases hlower : typeWords.lookup (lowercase word) with
    | some type => exact .inl ⟨_, mem_of_lookup hlower, .inr rfl, by rw [resolve, hword, hlower]⟩
    | none => exact .inr (by rw [resolve, hword, hlower])

/-! ## Texts in capitals -/

theorem uppercase_uppercase (word : String) : uppercase (uppercase word) = uppercase word := by
  rw [uppercase, uppercase, String.toList_ofList, upper_upper]

/-- A text with a known word as its lowercase form has the capitals of that word. -/
theorem uppercase_of_lowercase {entry : String × String} (hentry : entry ∈ typeWords)
    {word : String} (h : entry.1 = lowercase word) : uppercase entry.1 = uppercase word := by
  -- Known words are ASCII texts without the letter that the Kelvin sign becomes.
  have hall : typeWords.all (fun entry =>
      entry.1.toList.all fun c => c.toNat < 0x80 && c ≠ 'k') = true := by decide +kernel
  have hascii : ∀ c ∈ entry.1.toList, c.toNat < 0x80 ∧ c ≠ 'k' := by
    simpa using List.all_eq_true.mp hall entry hentry
  rw [h, lowercase, String.toList_ofList] at hascii
  rw [h, lowercase, uppercase, uppercase, String.toList_ofList, upper_lower hascii]

/-- **A text in capitals** is resolved to itself unless it is one of those that are listed. -/
theorem resolve_eq_self_iff {word : String} (hword : uppercase word = word) :
    resolve word = word ↔ word ∉ unsettledTypes := by
  refine ⟨fun h hmem => (resolve_unsettledTypes word hmem).1 h, fun hmem => ?_⟩
  rcases resolve_cases word with ⟨entry, hentry, hkey, -⟩ | h
  · -- Found as it is written or by its lowercase form, the word is the capitals of what was found.
    have hcapitals : uppercase entry.1 = word := by
      rcases hkey with hkey | hkey
      · rw [hkey, hword]
      · rw [uppercase_of_lowercase hentry hkey, hword]
    rw [← hcapitals] at hmem ⊢
    exact (resolve_typeWords entry hentry).2 hmem
  · rw [h, hword]

/-! ## Resolving again -/

/-- **The types that stay** when they are resolved again are all but those that are listed. -/
theorem resolve_resolve_iff (word : String) :
    resolve (resolve word) = resolve word ↔ resolve word ∉ unsettledTypes := by
  rcases resolve_cases word with ⟨entry, hentry, -, h⟩ | h
  · rw [h]
    have hstays := (resolve_typeWords entry hentry).1
    exact iff_of_true hstays fun hmem => (resolve_unsettledTypes _ hmem).1 hstays
  · rw [h]
    exact resolve_eq_self_iff (uppercase_uppercase word)

/-- `varchar` is not known, its capitals are. -/
theorem resolve_varchar_unsettled : resolve (resolve "varchar") ≠ resolve "varchar" := by
  decide +kernel

/-- **Resolving a second time** is enough. -/
theorem resolve_resolve_resolve (word : String) :
    resolve (resolve (resolve word)) = resolve (resolve word) := by
  by_cases hmem : resolve word ∈ unsettledTypes
  · exact (resolve_unsettledTypes _ hmem).2
  · rcases resolve_cases word with ⟨entry, hentry, -, h⟩ | h
    · have hstays := (resolve_typeWords entry hentry).1
      rw [h, hstays, hstays]
    · have hstays : resolve (resolve word) = resolve word := by
        rw [h] at hmem ⊢
        exact (resolve_eq_self_iff (uppercase_uppercase word)).mpr hmem
      rw [hstays, hstays]

end SchemaWorkbench
