import Mathlib.Data.List.Basic
import SchemaWorkbench.Text.Digits

/-!
# String literals of Java

Java source is a sequence of UTF-16 code units. A first step of reading it replaces Unicode escapes,
such as `\u0041`, by the units that they stand for, and only then string literals are read, so that
a Unicode escape can stand for the quote that ends a literal.

In a literal some characters do not stand for themselves: a quote ends the literal, a line must not
end in it, and a backslash starts an escape. An escape is longer than what it stands for, so that a
text with a backslash is never the value of the literal that it is written in, even where that is
well-formed. All other texts are.

## Main definitions

* `Java.codeUnits`: a character in UTF-16
* `Java.translate`: source with its Unicode escapes replaced
* `Java.literal?`: the value of the string literal that source starts with
* `Java.Plain`: the character stands for itself

## Main results

* `Java.literalRest?_append_quote`: plain characters are read up to the first quote
* `Java.length_translate`, `Java.length_literalRest?`: nothing is read as more than it has
* `Java.literalRest?_eq_iff`: which texts are the values of their literals
-/

namespace SchemaWorkbench.Export.Java

open Text

/-! ## Reading a literal -/

/-- A character in UTF-16. -/
def codeUnits (c : Char) : List Nat :=
  if c.toNat < 0x10000 then
    [c.toNat]
  else
    [0xD800 + (c.toNat - 0x10000) / 0x400, 0xDC00 + (c.toNat - 0x10000) % 0x400]

/-- The code unit that a Unicode escape stands for, after its backslash and a `u`, and what follows
it. There can be further letters of this kind before the four digits. -/
def unicodeEscape? (cs : List Char) : Option (Nat × List Char) :=
  let digits := (cs.dropWhile (· = 'u')).take 4
  if digits.length = 4 ∧ digits.all fun c => (hexValue? c).isSome then
    some (valueOfDigits 16 digits, (cs.dropWhile (· = 'u')).drop 4)
  else
    none

theorem suffix_of_unicodeEscape? {cs rest : List Char} {unit : Nat}
    (h : unicodeEscape? cs = some (unit, rest)) : rest <:+ cs := by
  simp only [unicodeEscape?] at h
  split at h
  · cases h
    exact (List.drop_suffix 4 _).trans (List.dropWhile_suffix _)
  · contradiction

/-- The code units of source once its Unicode escapes are replaced. A backslash starts such an
escape if no other backslash stands before it that starts something else. Where the escape has no
four digits the source is malformed: `none` stands for this error, and nothing is read behind it. -/
def translate (cs : List Char) : List (Option Nat) :=
  match cs with
  | [] => []
  | '\\' :: '\\' :: cs => some '\\'.toNat :: some '\\'.toNat :: translate cs
  | '\\' :: 'u' :: cs =>
    match _h : unicodeEscape? cs with
    | some (unit, rest) => some unit :: translate rest
    | none => [none]
  | c :: cs => (codeUnits c).map some ++ translate cs
termination_by cs.length
decreasing_by
  · simp only [List.length_cons]
    omega
  · have hsuffix := (suffix_of_unicodeEscape? ‹_›).length_le
    simp only [List.length_cons]
    omega
  · exact Nat.lt_succ_self _

/-- The characters that are escaped by a letter or a mark, with what is written for them. -/
def escapes : List (Char × Char) :=
  [('b', '\x08'), ('t', '\t'), ('n', '\n'), ('f', '\x0c'), ('r', '\r'), ('s', ' '), ('"', '"'),
    ('\x27', '\x27'), ('\\', '\\')]

/-- The code unit is an octal digit. -/
def isOctal (unit : Nat) : Bool :=
  '0'.toNat ≤ unit && unit ≤ '7'.toNat

/-- The value of an octal escape that goes on with at most `n` digits, and what follows it. -/
def octal : Nat → Nat → List (Option Nat) → Nat × List (Option Nat)
  | n + 1, value, some unit :: rest =>
    if isOctal unit then
      octal n (8 * value + (unit - '0'.toNat)) rest
    else
      (value, some unit :: rest)
  | _, value, rest => (value, rest)

/-- The value of an escape, after its backslash, and what follows it. An octal escape has up to
three digits, and up to two if it starts with a digit above three. -/
def escape? : List (Option Nat) → Option (Nat × List (Option Nat))
  | some unit :: rest =>
    if isOctal unit then
      some (octal (if unit ≤ '3'.toNat then 2 else 1) (unit - '0'.toNat) rest)
    else
      (escapes.find? (·.1.toNat = unit)).map fun e => (e.2.toNat, rest)
  | _ => none

theorem length_octal (n value : Nat) (src : List (Option Nat)) :
    (octal n value src).2.length ≤ src.length := by
  fun_induction octal n value src with
  | case1 n value unit rest hunit ih =>
    rw [List.length_cons]
    omega
  | case2 => exact Nat.le_refl _
  | case3 => exact Nat.le_refl _

theorem length_escape? {src rest : List (Option Nat)} {value : Nat}
    (h : escape? src = some (value, rest)) : rest.length < src.length := by
  unfold escape? at h
  split at h
  · split at h
    · obtain rfl := congrArg Prod.snd (Option.some.inj h)
      exact Nat.lt_succ_of_le (length_octal _ _ _)
    · obtain ⟨e, -, he⟩ := Option.map_eq_some_iff.mp h
      cases he
      exact Nat.lt_succ_self _
  · contradiction

/-- The value of a string literal, from behind its opening quote, and what follows its closing
quote. A literal stands on one line. -/
def literalRest? (src : List (Option Nat)) : Option (List Nat × List (Option Nat)) :=
  match src with
  | some unit :: rest =>
    if unit = '"'.toNat then
      some ([], rest)
    else if unit = '\n'.toNat ∨ unit = '\r'.toNat then
      none
    else if unit = '\\'.toNat then
      match _h : escape? rest with
      | some (value, after) => (literalRest? after).map fun p => (value :: p.1, p.2)
      | none => none
    else
      (literalRest? rest).map fun p => (unit :: p.1, p.2)
  | _ => none
termination_by src.length
decreasing_by
  · exact Nat.lt_succ_of_lt (length_escape? ‹_›)
  · exact Nat.lt_succ_self _

/-- The value of the string literal that source starts with, and what follows it. Three quotes open
no string literal but a text block. -/
def literal? : List (Option Nat) → Option (List Nat × List (Option Nat))
  | some unit :: rest =>
    if unit = '"'.toNat ∧ rest.take 2 ≠ [some '"'.toNat, some '"'.toNat] then
      literalRest? rest
    else
      none
  | _ => none

/-! ## Characters that stand for themselves -/

/-- The character stands for itself in a string literal. -/
def Plain (c : Char) : Prop :=
  c ≠ '"' ∧ c ≠ '\\' ∧ c ≠ '\n' ∧ c ≠ '\r'

instance (c : Char) : Decidable (Plain c) :=
  inferInstanceAs (Decidable (_ ∧ _))

theorem not_plain_iff {c : Char} : ¬ Plain c ↔ c = '"' ∨ c = '\\' ∨ c = '\n' ∨ c = '\r' := by
  simp only [Plain, not_and_or, not_not]

theorem codeUnits_ne_nil (c : Char) : codeUnits c ≠ [] := by
  rw [codeUnits]
  split <;> exact List.cons_ne_nil _ _

/-- No code unit of a character is another character of ASCII. -/
theorem ne_of_mem_codeUnits {c d : Char} (hd : d.toNat < 0x80) (hne : c ≠ d) :
    ∀ unit ∈ codeUnits c, unit ≠ d.toNat := by
  have hcode : c.toNat ≠ d.toNat := fun h => hne (Char.toNat_inj.mp h)
  rw [codeUnits]
  split
  · simpa using hcode
  · simp only [List.forall_mem_cons, List.not_mem_nil, false_implies, implies_true, and_true]
    omega

theorem translate_cons {c : Char} (hc : c ≠ '\\') (cs : List Char) :
    translate (c :: cs) = (codeUnits c).map some ++ translate cs := by
  rw [translate]
  · rintro ds rfl
    exact absurd rfl hc
  · rintro ds rfl
    exact absurd rfl hc

/-- Source without backslashes has no Unicode escapes. -/
theorem translate_eq_map {cs : List Char} (hcs : '\\' ∉ cs) :
    translate cs = (cs.flatMap codeUnits).map some := by
  induction cs with
  | nil => rw [translate, List.flatMap_nil, List.map_nil]
  | cons c cs ih =>
    rw [List.mem_cons, not_or] at hcs
    rw [translate_cons (Ne.symm hcs.1), ih hcs.2, List.flatMap_cons, List.map_append]

theorem literalRest?_quote (src : List (Option Nat)) :
    literalRest? (some '"'.toNat :: src) = some ([], src) := by
  rw [literalRest?, if_pos rfl]

theorem literalRest?_lineEnd {unit : Nat} (h : unit = '\n'.toNat ∨ unit = '\r'.toNat)
    (src : List (Option Nat)) : literalRest? (some unit :: src) = none := by
  have hquote : unit ≠ '"'.toNat := by rcases h with rfl | rfl <;> decide
  rw [literalRest?, if_neg hquote, if_pos h]

/-- Code units that stand for themselves are read as themselves. -/
theorem literalRest?_append {units : List Nat}
    (hunits : ∀ unit ∈ units, unit ≠ '"'.toNat ∧ unit ≠ '\\'.toNat ∧ unit ≠ '\n'.toNat ∧
      unit ≠ '\r'.toNat) (src : List (Option Nat)) :
    literalRest? (units.map some ++ src) =
      (literalRest? src).map fun p => (units ++ p.1, p.2) := by
  induction units with
  | nil => simp
  | cons unit units ih =>
    rw [List.forall_mem_cons] at hunits
    obtain ⟨⟨hquote, hslash, hfeed, hreturn⟩, hunits⟩ := hunits
    rw [List.map_cons, List.cons_append, literalRest?, if_neg hquote,
      if_neg (not_or.mpr ⟨hfeed, hreturn⟩), if_neg hslash, ih hunits, Option.map_map]
    rfl

/-- A character that stands for itself is read as itself. -/
theorem literalRest?_translate_cons {c : Char} (hc : Plain c) (cs : List Char) :
    literalRest? (translate (c :: cs)) =
      (literalRest? (translate cs)).map fun p => (codeUnits c ++ p.1, p.2) := by
  obtain ⟨hquote, hslash, hfeed, hreturn⟩ := hc
  rw [translate_cons hslash]
  exact literalRest?_append (fun unit hunit =>
    ⟨ne_of_mem_codeUnits (by decide) hquote unit hunit,
      ne_of_mem_codeUnits (by decide) hslash unit hunit,
      ne_of_mem_codeUnits (by decide) hfeed unit hunit,
      ne_of_mem_codeUnits (by decide) hreturn unit hunit⟩) _

/-- **Plain characters are read up to the first quote.** -/
theorem literalRest?_append_quote {cs : List Char} (hcs : ∀ c ∈ cs, Plain c) (after : List Char) :
    literalRest? (translate (cs ++ '"' :: after)) =
      some (cs.flatMap codeUnits, translate after) := by
  induction cs with
  | nil =>
    rw [List.nil_append, translate_cons (by decide)]
    exact literalRest?_quote _
  | cons c cs ih =>
    rw [List.forall_mem_cons] at hcs
    rw [List.cons_append, literalRest?_translate_cons hcs.1, ih hcs.2, List.flatMap_cons]
    rfl

/-! ## Lengths -/

/-- **A literal is longer than its value**: nothing is read as more code units than it has, and the
closing quote is read as none. -/
theorem length_literalRest? {src rest : List (Option Nat)} {value : List Nat}
    (h : literalRest? src = some (value, rest)) : value.length + rest.length < src.length := by
  fun_induction literalRest? src generalizing value with
  | case1 =>
    cases h
    simp
  | case2 => contradiction
  | case3 src u after hescape hquote hline ih =>
    obtain ⟨p, hp, hvalue⟩ := Option.map_eq_some_iff.mp h
    cases hvalue
    -- The escape is read as one unit, and takes at least one behind its backslash.
    have hafter := length_escape? hescape
    have hlength := ih hp
    simp only [List.length_cons]
    omega
  | case4 => contradiction
  | case5 unit src hquote hline hslash ih =>
    obtain ⟨p, hp, hvalue⟩ := Option.map_eq_some_iff.mp h
    cases hvalue
    have hlength := ih hp
    simp only [List.length_cons]
    omega
  | case6 => contradiction

/-- An escape takes one code unit more than it is read as. -/
theorem length_literalRest?_backslash {src rest : List (Option Nat)} {value : List Nat}
    (h : literalRest? (some '\\'.toNat :: src) = some (value, rest)) :
    value.length + rest.length < src.length := by
  rw [literalRest?, if_neg (by decide), if_neg (by decide), if_pos rfl] at h
  split at h
  · rename_i u after hescape
    obtain ⟨p, hp, hvalue⟩ := Option.map_eq_some_iff.mp h
    cases hvalue
    have hafter := length_escape? hescape
    have hlength := length_literalRest? hp
    simp only [List.length_cons]
    omega
  · contradiction

/-- Code units of what stands at the end of a text are code units of the text. -/
theorem length_flatMap_codeUnits {cs ds : List Char} (h : cs <:+ ds) :
    (cs.flatMap codeUnits).length ≤ (ds.flatMap codeUnits).length := by
  obtain ⟨before, rfl⟩ := h
  rw [List.flatMap_append, List.length_append]
  exact Nat.le_add_left _ _

/-- Replacing Unicode escapes makes source no longer. -/
theorem length_translate (cs : List Char) :
    (translate cs).length ≤ (cs.flatMap codeUnits).length := by
  have hslash : (codeUnits '\\').length = 1 := rfl
  have hu : (codeUnits 'u').length = 1 := rfl
  fun_induction translate cs with
  | case1 => exact Nat.le_refl _
  | case2 cs ih =>
    simp only [List.length_cons, List.flatMap_cons, List.length_append]
    omega
  | case3 cs unit rest hescape ih =>
    have hsuffix := length_flatMap_codeUnits (suffix_of_unicodeEscape? hescape)
    simp only [List.length_cons, List.flatMap_cons, List.length_append]
    omega
  | case4 =>
    simp only [List.length_cons, List.length_nil, List.flatMap_cons, List.length_append]
    omega
  | case5 c cs hescaped hunicode ih =>
    simp only [List.length_append, List.length_map, List.flatMap_cons]
    omega

/-- A backslash that starts no Unicode escape stays, and one that does makes source shorter. -/
theorem translate_backslash (cs : List Char) :
    (∃ src, translate ('\\' :: cs) = some '\\'.toNat :: src) ∨
      (translate ('\\' :: cs)).length < (('\\' :: cs).flatMap codeUnits).length := by
  have hslash : (codeUnits '\\').length = 1 := rfl
  have hu : (codeUnits 'u').length = 1 := rfl
  rw [translate.eq_def]
  split
  · contradiction
  · exact .inl ⟨_, rfl⟩
  · rename_i cs heq
    cases heq
    right
    split
    · rename_i unit rest hescape
      have hlength := length_translate rest
      have hsuffix := length_flatMap_codeUnits (suffix_of_unicodeEscape? hescape)
      simp only [List.length_cons, List.flatMap_cons, List.length_append]
      omega
    · simp only [List.length_cons, List.length_nil, List.flatMap_cons, List.length_append]
      omega
  · rename_i heq
    cases heq
    exact .inl ⟨_, rfl⟩

/-- What starts with a backslash is read as two code units less than it has, at least: one is lost
by the escape and one by the closing quote. -/
theorem length_literalRest?_translate_backslash {cs : List Char} {value : List Nat}
    {rest : List (Option Nat)} (h : literalRest? (translate ('\\' :: cs)) = some (value, rest)) :
    value.length + rest.length + 2 ≤ (('\\' :: cs).flatMap codeUnits).length := by
  rcases translate_backslash cs with ⟨src, hsrc⟩ | hshorter
  · have hlength := length_translate ('\\' :: cs)
    rw [hsrc] at h hlength
    have hescape := length_literalRest?_backslash h
    rw [List.length_cons] at hlength
    omega
  · have hliteral := length_literalRest? h
    omega

/-! ## Values of literals -/

section Value

variable {after : List Char} (hafter : '\\' ∉ after)
include hafter

/-- What starts with a backslash is not read as it is, for want of code units. -/
theorem literalRest?_backslash_ne (cs : List Char) :
    literalRest? (translate ('\\' :: (cs ++ '"' :: after))) ≠
      some (codeUnits '\\' ++ cs.flatMap codeUnits, translate after) := by
  intro h
  have hlength := length_literalRest?_translate_backslash h
  have hquote : (codeUnits '"').length = 1 := rfl
  rw [translate_eq_map hafter] at hlength
  simp only [List.flatMap_cons, List.flatMap_append, List.length_append, List.length_map] at hlength
  omega

/-- **Which texts are the values of their literals**: those in which all characters stand for
themselves. -/
theorem literalRest?_eq_iff (cs : List Char) :
    literalRest? (translate (cs ++ '"' :: after)) =
        some (cs.flatMap codeUnits, translate after) ↔
      ∀ c ∈ cs, Plain c := by
  refine ⟨fun h => ?_, fun h => literalRest?_append_quote h after⟩
  induction cs with
  | nil => exact List.forall_mem_nil _
  | cons c cs ih =>
    rw [List.cons_append, List.flatMap_cons] at h
    by_cases hplain : Plain c
    · rw [literalRest?_translate_cons hplain, Option.map_eq_some_iff] at h
      exact List.forall_mem_cons.mpr ⟨hplain, ih (by simpa using h)⟩
    · exfalso
      -- A quote leaves an empty value, a line end none, and a backslash one that is too short.
      rcases not_plain_iff.mp hplain with rfl | rfl | rfl | rfl
      · rw [translate_cons (by decide)] at h
        have hread := (literalRest?_quote _).symm.trans h
        simp [codeUnits_ne_nil] at hread
      · exact literalRest?_backslash_ne hafter cs h
      · rw [translate_cons (by decide)] at h
        exact absurd ((literalRest?_lineEnd (.inl rfl) _).symm.trans h) nofun
      · rw [translate_cons (by decide)] at h
        exact absurd ((literalRest?_lineEnd (.inr rfl) _).symm.trans h) nofun

end Value

/-- A string literal that is followed by no further quote is read from behind its opening quote. -/
theorem literal?_eq_iff {src rest : List (Option Nat)} {value : List Nat}
    (hrest : rest.head? ≠ some (some '"'.toNat)) :
    literal? (some '"'.toNat :: src) = some (value, rest) ↔
      literalRest? src = some (value, rest) := by
  rw [literal?]
  split
  · rfl
  · rename_i hquotes
    -- With a second quote the literal is empty, and the third one follows it.
    have hquotes : src.take 2 = [some '"'.toNat, some '"'.toNat] := by simpa using hquotes
    refine iff_of_false nofun fun h => hrest ?_
    obtain ⟨rest', hsrc⟩ : ∃ rest', src = some '"'.toNat :: some '"'.toNat :: rest' :=
      ⟨src.drop 2, by rw [← List.take_append_drop 2 src, hquotes]; rfl⟩
    rw [hsrc, literalRest?_quote] at h
    cases h
    rfl

end SchemaWorkbench.Export.Java
