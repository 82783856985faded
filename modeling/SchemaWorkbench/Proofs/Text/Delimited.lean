import SchemaWorkbench.Proofs.Text.Pieces

/-!
# Codes that tell where they end

A value is written down as its code, which shows some of it. The code is delimited if a text that
starts with it tells what it shows and where it ends, whatever stands behind it. Codes that are
delimited can be written one after the other, and so can the codes of a list, if what follows them
starts like none of them.

A run of characters is delimited by the first other character behind it, which need not be the same
one for all values.

## Main definitions

* `Delimited P code shown`: the codes of the values with `P` are delimited
* `Apart P code mark`: no code of a value with `P` can be taken for the mark

## Main results

* `run_append_eq_iff`: a run ends where the first other character stands
* `Delimited.flag`: a mark that stands before a code or not
* `Delimited.append_run`: a code behind a run
* `Delimited.flatMap_append_eq_iff`: the codes of a list, and what follows them
-/

namespace SchemaWorkbench.Text

/-! ## Runs of characters -/

section

variable {p : Char → Bool} {run run' rest rest' : List Char}

/-- A run ends where the first other character stands, or with the text. -/
theorem takeWhile_append_of_head? (hrun : ∀ c ∈ run, p c) (hrest : ∀ c ∈ rest.head?, p c = false) :
    (run ++ rest).takeWhile p = run := by
  cases rest with
  | nil => rw [List.takeWhile_append_of_pos hrun, List.takeWhile_nil, List.append_nil]
  | cons c rest => exact takeWhile_append_cons hrun (hrest c rfl) rest

/-- Runs in front of equal texts are equal. -/
theorem run_append_eq_iff (hrun : ∀ c ∈ run, p c) (hrun' : ∀ c ∈ run', p c)
    (hrest : ∀ c ∈ rest.head?, p c = false) (hrest' : ∀ c ∈ rest'.head?, p c = false) :
    run ++ rest = run' ++ rest' ↔ run = run' ∧ rest = rest' := by
  constructor
  · intro h
    have hsame : run = run' := by
      rw [← takeWhile_append_of_head? hrun hrest, h, takeWhile_append_of_head? hrun' hrest']
    subst hsame
    exact ⟨rfl, List.append_cancel_left h⟩
  · rintro ⟨rfl, rfl⟩
    rfl

end

/-! ## Delimited codes -/

variable {α β κ κ' : Type} {P : α → Prop} {code : α → List Char} {shown : α → κ}

/-- A text that starts with the code of a value with `P` tells what the code shows, and where the
code ends. -/
def Delimited (P : α → Prop) (code : α → List Char) (shown : α → κ) : Prop :=
  ∀ ⦃a b⦄, P a → P b → ∀ rest rest',
    code a ++ rest = code b ++ rest' ↔ shown a = shown b ∧ rest = rest'

/-- No text starts both with the mark and with the code of a value with `P`. -/
def Apart (P : α → Prop) (code : α → List Char) (mark : List Char) : Prop :=
  ∀ a, P a → ∀ rest rest', mark ++ rest ≠ code a ++ rest'

namespace Delimited

/-- What is shown can be said in another way. -/
theorem congr (h : Delimited P code shown) {shown' : α → κ'}
    (hshown : ∀ a b, shown a = shown b ↔ shown' a = shown' b) : Delimited P code shown' :=
  fun a b ha hb rest rest' => by rw [h ha hb, hshown]

/-- The code of a part of a value. -/
theorem comp (h : Delimited P code shown) {Q : β → Prop} {f : β → α} (hpart : ∀ b, Q b → P (f b)) :
    Delimited Q (fun b => code (f b)) (fun b => shown (f b)) :=
  fun _ _ ha hb => h (hpart _ ha) (hpart _ hb)

/-- A text that is the same for all values may stand before the code. -/
theorem append_left (h : Delimited P code shown) (text : List Char) :
    Delimited P (fun a => text ++ code a) shown := by
  intro a b ha hb rest rest'
  rw [List.append_assoc, List.append_assoc, List.append_cancel_left_eq, h ha hb]

/-- A mark stands before the code or not, and is not taken for the code. -/
theorem flag (h : Delimited P code shown) (mark : List Char) (hmark : Apart P code mark)
    (set : α → Bool) :
    Delimited P (fun a => (if set a then mark else []) ++ code a) (fun a => (set a, shown a)) := by
  intro a b ha hb rest rest'
  simp only [Prod.mk.injEq]
  cases hsa : set a <;> cases hsb : set b
  · simpa using h ha hb rest rest'
  · simpa using fun heq => hmark a ha _ _ heq.symm
  · simpa using hmark b hb (code a ++ rest) rest'
  · simpa using h ha hb rest rest'

/-- A run of characters and a text that the first other character starts. -/
theorem run {p : Char → Bool} {run : α → List Char} (hrun : ∀ a, P a → ∀ c ∈ run a, p c)
    (text : List Char) (hstop : ∃ c tail, text = c :: tail ∧ p c = false) :
    Delimited P (fun a => run a ++ text) run := by
  obtain ⟨stop, tail, rfl, hstop⟩ := hstop
  intro a b ha hb rest rest'
  have hend (rest : List Char) : ∀ c ∈ (stop :: tail ++ rest).head?, p c = false := by
    rintro c ⟨⟩
    exact hstop
  rw [List.append_assoc, List.append_assoc,
    run_append_eq_iff (hrun a ha) (hrun b hb) (hend rest) (hend rest'),
    List.append_cancel_left_eq]

/-- A run of characters and a code that the first other character starts. -/
theorem append_run (h : Delimited P code shown) {p : Char → Bool} {run : α → List Char}
    (hrun : ∀ a, P a → ∀ c ∈ run a, p c)
    (hstop : ∀ a, P a → ∃ c tail, code a = c :: tail ∧ p c = false) :
    Delimited P (fun a => run a ++ code a) (fun a => (run a, shown a)) := by
  intro a b ha hb rest rest'
  have hend {a : α} (ha : P a) (rest : List Char) :
      ∀ c ∈ (code a ++ rest).head?, p c = false := by
    obtain ⟨c, tail, hcode, hc⟩ := hstop a ha
    rw [hcode]
    rintro _ ⟨⟩
    exact hc
  rw [List.append_assoc, List.append_assoc,
    run_append_eq_iff (hrun a ha) (hrun b hb) (hend ha rest) (hend hb rest'), h ha hb,
    Prod.mk.injEq, and_assoc]

/-- **The codes of a list show it**, and tell where they end, if what follows them starts with no
code. -/
theorem flatMap_append_eq_iff (h : Delimited P code shown) {rest rest' : List Char}
    (hrest : ∀ a, P a → ∀ tail, rest ≠ code a ++ tail)
    (hrest' : ∀ a, P a → ∀ tail, rest' ≠ code a ++ tail) {as bs : List α}
    (has : ∀ a ∈ as, P a) (hbs : ∀ b ∈ bs, P b) :
    as.flatMap code ++ rest = bs.flatMap code ++ rest' ↔
      as.map shown = bs.map shown ∧ rest = rest' := by
  induction as generalizing bs with
  | nil =>
    cases bs with
    | nil => simp
    | cons b bs => simpa using hrest b (hbs b List.mem_cons_self) (bs.flatMap code ++ rest')
  | cons a as ih =>
    rw [List.forall_mem_cons] at has
    cases bs with
    | nil => simpa using (hrest' a has.1 (as.flatMap code ++ rest)).symm
    | cons b bs =>
      rw [List.forall_mem_cons] at hbs
      rw [List.flatMap_cons, List.flatMap_cons, List.append_assoc, List.append_assoc,
        h has.1 hbs.1, ih has.2 hbs.2, List.map_cons, List.map_cons, List.cons.injEq, and_assoc]

/-- The codes of a list with a mark behind them. -/
theorem list (h : Delimited P code shown) (mark : List Char) (hmark : Apart P code mark) :
    Delimited (fun as => ∀ a ∈ as, P a) (fun as => as.flatMap code ++ mark) (List.map shown) := by
  intro as bs has hbs rest rest'
  rw [List.append_assoc, List.append_assoc, h.flatMap_append_eq_iff
    (fun a ha => hmark a ha rest) (fun a ha => hmark a ha rest') has hbs,
    List.append_cancel_left_eq]

/-- A text of codes, none of which is empty, shows their list. -/
theorem flatMap_eq_iff (h : Delimited P code shown) (hne : ∀ a, P a → code a ≠ []) {as bs : List α}
    (has : ∀ a ∈ as, P a) (hbs : ∀ b ∈ bs, P b) :
    as.flatMap code = bs.flatMap code ↔ as.map shown = bs.map shown := by
  have hnil : ∀ a, P a → ∀ tail, [] ≠ code a ++ tail := by
    intro a ha tail h
    exact hne a ha (List.append_eq_nil_iff.mp h.symm).1
  simpa using h.flatMap_append_eq_iff hnil hnil has hbs

end Delimited

end SchemaWorkbench.Text
