import SchemaWorkbench.Json.Printer
import SchemaWorkbench.Json.Reader

/-!
# Printed values read back

A printed value, in any layout whose gaps are whitespace, is cut into the tokens of the value,
whatever comes after it; and these tokens lead the reader from a value that is due to the value
complete. So what is printed is what is read, as long as no number occurs (the text of a double
need not read back as that double) and not too many containers are nested.

## Main definitions

* `Plain n v`: no number occurs in `v`, and at most `n` containers are nested in it
* `tokensOf`: the tokens of a value
* `Layout.Blank`: only whitespace stands between the tokens

## Main results

* `scanText_flatMap_escapeChar`: an escaped string reads back, for every character
* `tokens_print`: a printed value is cut into its tokens
* `run_tokensOf`: the tokens of a value complete it
* `readWithin_print`, `read_pretty`, `read_compact`: a printed value reads back
-/

namespace SchemaWorkbench.Json

open Text

/-! ## Strings -/

theorem hexValue?_digitChar : ∀ n < 16, hexValue? (Nat.digitChar n) = some n := by decide

theorem utf8Size_digitChar : ∀ n < 16, (Nat.digitChar n).utf8Size = 1 := by decide

/-- The escape by number of a control character stands for it. -/
theorem unicodeEscape_control {c : Char} (h : c.toNat < 0x20) (rest : List Char) :
    unicodeEscape ('0' :: '0' :: Nat.digitChar (c.toNat / 16) :: Nat.digitChar (c.toNat % 16)
      :: rest) = .ok (c, rest) := by
  have hhigh : c.toNat / 16 < 16 := by omega
  have hlow : c.toNat % 16 < 16 := by omega
  have hunit : hexUnit ('0' :: '0' :: Nat.digitChar (c.toNat / 16)
      :: Nat.digitChar (c.toNat % 16) :: rest) = .ok (c.toNat, rest) := by
    -- Of the four digits the first two are zero, and every digit is one byte long.
    have hzero : hexValue? '0' = some 0 := by decide
    have hsize : Char.utf8Size '0' = 1 := by decide
    simp [hexUnit, hzero, hsize, hexValue?_digitChar _ hhigh, hexValue?_digitChar _ hlow,
      utf8Size_digitChar _ hhigh, utf8Size_digitChar _ hlow]
    omega
  simp only [unicodeEscape, hunit, bind, Except.bind]
  rw [if_neg (by omega), if_pos (by omega), Char.ofNat_toNat]

/-- The characters that are escaped by a letter or a mark instead of their number. -/
def shorthands : List Char :=
  ['"', '\\', '\x08', '\x0c', '\n', '\r', '\t']

/-- The character is written as an escape that stands for it. -/
def Escaped (c : Char) : Prop :=
  ∃ body, escapeChar c = '\\' :: body ∧ ∀ rest, escape (body ++ rest) = .ok (c, rest)

theorem escaped_of_mem_shorthands : ∀ c ∈ shorthands, Escaped c := by
  simp only [shorthands, List.forall_mem_cons]
  exact ⟨⟨_, rfl, fun _ => rfl⟩, ⟨_, rfl, fun _ => rfl⟩, ⟨_, rfl, fun _ => rfl⟩,
    ⟨_, rfl, fun _ => rfl⟩, ⟨_, rfl, fun _ => rfl⟩, ⟨_, rfl, fun _ => rfl⟩,
    ⟨_, rfl, fun _ => rfl⟩, by simp⟩

/-- A character is written as itself, or as an escape that stands for it. -/
theorem escapeChar_cases (c : Char) :
    (escapeChar c = [c] ∧ c ≠ '"' ∧ c ≠ '\\' ∧ 0x20 ≤ c.toNat) ∨ Escaped c := by
  by_cases hmem : c ∈ shorthands
  · exact .inr (escaped_of_mem_shorthands c hmem)
  · simp only [shorthands, List.mem_cons, List.not_mem_nil, or_false, not_or] at hmem
    obtain ⟨hq, hb, hbs, hff, hlf, hcr, htab⟩ := hmem
    by_cases hctl : c.toNat < 0x20
    · have hescape : escapeChar c = '\\' :: 'u' :: '0' :: '0' :: Nat.digitChar (c.toNat / 16)
          :: Nat.digitChar (c.toNat % 16) :: [] := by
        rw [escapeChar, if_neg hq, if_neg hb, if_neg hbs, if_neg hff, if_neg hlf, if_neg hcr,
          if_neg htab, if_pos hctl]
      exact .inr ⟨_, hescape, unicodeEscape_control hctl⟩
    · refine .inl ⟨?_, hq, hb, by omega⟩
      rw [escapeChar, if_neg hq, if_neg hb, if_neg hbs, if_neg hff, if_neg hlf, if_neg hcr,
        if_neg htab, if_neg hctl]

theorem scanText_backslash {rest after : List Char} {c : Char} (h : escape rest = .ok (c, after)) :
    scanText ('\\' :: rest) = (scanText after).map fun p => (c :: p.1, p.2) := by
  rw [scanText]
  split
  · rename_i e he
    rw [h] at he
    contradiction
  · rename_i c' after' he
    rw [h] at he
    cases he
    cases scanText after <;> rfl

theorem scanText_plain {c : Char} (hq : c ≠ '"') (hb : c ≠ '\\') (hctl : 0x20 ≤ c.toNat)
    (rest : List Char) :
    scanText (c :: rest) = (scanText rest).map fun p => (c :: p.1, p.2) := by
  rw [scanText, if_neg (by omega)]
  · cases scanText rest <;> rfl
  · exact hq
  · exact hb

/-- Scanning an escaped character takes just that character from the text. -/
theorem scanText_escapeChar (c : Char) (rest : List Char) :
    scanText (escapeChar c ++ rest) = (scanText rest).map fun p => (c :: p.1, p.2) := by
  rcases escapeChar_cases c with ⟨he, hq, hb, hctl⟩ | ⟨body, he, hbody⟩
  · rw [he]
    exact scanText_plain hq hb hctl rest
  · rw [he]
    exact scanText_backslash (hbody rest)

/-- **An escaped string reads back**, up to the quote that closes it. -/
theorem scanText_flatMap_escapeChar (cs rest : List Char) :
    scanText (cs.flatMap escapeChar ++ '"' :: rest) = .ok (cs, rest) := by
  induction cs with
  | nil => rw [List.flatMap_nil, List.nil_append, scanText]
  | cons c cs ih =>
    rw [List.flatMap_cons, List.append_assoc, scanText_escapeChar, ih]
    rfl

/-! ## The tokens of a printed value -/

/-- Only whitespace stands between the tokens. -/
structure Layout.Blank (style : Layout) : Prop where
  gap (depth : Nat) : (style.gap depth).all isGap
  afterKey : ∃ gap, style.afterKey = ':' :: gap ∧ gap.all isGap

theorem Layout.blank_indented : Layout.indented.Blank where
  gap depth := by simp [Layout.indented, isGap]
  afterKey := ⟨[' '], rfl, by decide⟩

theorem Layout.blank_dense : Layout.dense.Blank where
  gap _ := rfl
  afterKey := ⟨[], rfl, rfl⟩

/-- `Plain n v`: no number occurs in `v`, and at most `n` containers are nested in it. -/
inductive Plain : Nat → Json → Prop
  | null {n} : Plain n .null
  | bool {n} (b : Bool) : Plain n (.bool b)
  | str {n} (s : String) : Plain n (.str s)
  | arr {n} {items : List Json} (h : ∀ v ∈ items, Plain n v) : Plain (n + 1) (.arr items)
  | obj {n} {members : List (String × Json)} (h : ∀ m ∈ members, Plain n m.2) :
      Plain (n + 1) (.obj members)

mutual

/-- The tokens of a value. -/
def tokensOf : Json → List Token
  | .arr [] => [.listOpen, .listClose]
  | .arr (v :: vs) => .listOpen :: (tokensOf v ++ (itemTokens vs ++ [.listClose]))
  | .obj [] => [.objectOpen, .objectClose]
  | .obj ((key, v) :: ms) =>
    .objectOpen :: .text key :: .colon :: (tokensOf v ++ (memberTokens ms ++ [.objectClose]))
  | .str s => [.text s]
  | v => [.scalar v]

/-- The tokens of the items of a list after the first one. -/
def itemTokens : List Json → List Token
  | [] => []
  | v :: vs => .comma :: (tokensOf v ++ itemTokens vs)

/-- The tokens of the members of an object after the first one. -/
def memberTokens : List (String × Json) → List Token
  | [] => []
  | (key, v) :: ms => .comma :: .text key :: .colon :: (tokensOf v ++ memberTokens ms)

end

theorem tokens_gap {gap : List Char} (h : gap.all isGap) (rest : List Char) :
    tokens (gap ++ rest) = tokens rest := by
  induction gap with
  | nil => rfl
  | cons c gap ih =>
    rw [List.all_cons, Bool.and_eq_true] at h
    rw [List.cons_append, tokens, if_pos h.1, ih h.2]

/-- The first token of a text that does not start with whitespace. -/
theorem tokens_cons {c : Char} {cs rest : List Char} {t : Token} (hc : isGap c = false)
    (h : nextToken c cs = (t, rest)) : tokens (c :: cs) = t :: tokens rest := by
  rw [tokens, if_neg (by simp [hc]), h]

theorem tokens_listOpen (cs : List Char) : tokens ('[' :: cs) = .listOpen :: tokens cs :=
  tokens_cons (by decide) rfl

theorem tokens_listClose (cs : List Char) : tokens (']' :: cs) = .listClose :: tokens cs :=
  tokens_cons (by decide) rfl

theorem tokens_objectOpen (cs : List Char) : tokens ('{' :: cs) = .objectOpen :: tokens cs :=
  tokens_cons (by decide) rfl

theorem tokens_objectClose (cs : List Char) : tokens ('}' :: cs) = .objectClose :: tokens cs :=
  tokens_cons (by decide) rfl

theorem tokens_colon (cs : List Char) : tokens (':' :: cs) = .colon :: tokens cs :=
  tokens_cons (by decide) rfl

theorem tokens_comma (cs : List Char) : tokens (',' :: cs) = .comma :: tokens cs :=
  tokens_cons (by decide) rfl

theorem tokens_printText (s : String) (rest : List Char) :
    tokens (printText s ++ rest) = .text s :: tokens rest := by
  have hscan := scanText_flatMap_escapeChar s.toList rest
  have hnext : nextToken '"' (s.toList.flatMap escapeChar ++ '"' :: rest) = (.text s, rest) := by
    simp [nextToken, textToken, hscan]
  simpa [printText] using tokens_cons (by decide) hnext

theorem tokens_afterKey {style : Layout} (hstyle : style.Blank) (rest : List Char) :
    tokens (style.afterKey ++ rest) = .colon :: tokens rest := by
  obtain ⟨gap, he, hgap⟩ := hstyle.afterKey
  rw [he, List.cons_append, tokens_colon, tokens_gap hgap]

section Printing

variable {style : Layout} (hstyle : style.Blank) {n : Nat}

include hstyle

/-- The step of `tokens_print` for the items of a list after the first one. -/
theorem tokens_printItems {vs : List Json} (depth : Nat) (rest : List Char)
    (ih : ∀ v ∈ vs, ∀ rest, tokens (print style depth v ++ rest) = tokensOf v ++ tokens rest) :
    tokens (printItems style depth vs ++ rest) = itemTokens vs ++ tokens rest := by
  induction vs with
  | nil => rfl
  | cons v vs ihvs =>
    simp only [printItems, itemTokens, List.cons_append, List.append_assoc]
    rw [tokens_comma, tokens_gap (hstyle.gap _), ih v (by simp),
      ihvs fun v hv => ih v (by simp [hv])]

/-- The step of `tokens_print` for the members of an object after the first one. -/
theorem tokens_printMembers {ms : List (String × Json)} (depth : Nat) (rest : List Char)
    (ih : ∀ m ∈ ms, ∀ rest,
      tokens (print style depth m.2 ++ rest) = tokensOf m.2 ++ tokens rest) :
    tokens (printMembers style depth ms ++ rest) = memberTokens ms ++ tokens rest := by
  induction ms with
  | nil => rfl
  | cons m ms ihms =>
    obtain ⟨key, v⟩ := m
    simp only [printMembers, memberTokens, List.cons_append, List.append_assoc]
    rw [tokens_comma, tokens_gap (hstyle.gap _), tokens_printText, tokens_afterKey hstyle,
      ih (key, v) (by simp), ihms fun m hm => ih m (by simp [hm])]

/-- **A printed value is cut into its tokens**, whatever comes after it. -/
theorem tokens_print {v : Json} (hv : Plain n v) (depth : Nat) (rest : List Char) :
    tokens (print style depth v ++ rest) = tokensOf v ++ tokens rest := by
  -- The rest is arbitrary because a value inside a container is followed by what closes it.
  induction hv generalizing depth rest with
  | null => exact tokens_cons (by decide) rfl
  | bool b => cases b <;> exact tokens_cons (by decide) rfl
  | str s => exact tokens_printText s rest
  | arr h ih =>
    rename_i items
    -- An empty list has no gap between its brackets.
    cases items with
    | nil => exact (tokens_listOpen _).trans (congrArg _ (tokens_listClose rest))
    | cons v vs =>
      simp only [print, tokensOf, List.cons_append, List.append_assoc]
      rw [tokens_listOpen, tokens_gap (hstyle.gap _), ih v (by simp),
        tokens_printItems hstyle _ _ fun v hv => ih v (by simp [hv]) _, tokens_gap (hstyle.gap _),
        List.nil_append, List.nil_append, tokens_listClose]
  | obj h ih =>
    rename_i members
    rcases members with _ | ⟨⟨key, v⟩, ms⟩
    · exact (tokens_objectOpen _).trans (congrArg _ (tokens_objectClose rest))
    · simp only [print, tokensOf, List.cons_append, List.append_assoc]
      rw [tokens_objectOpen, tokens_gap (hstyle.gap _), tokens_printText, tokens_afterKey hstyle,
        ih (key, v) (by simp), tokens_printMembers hstyle _ _ fun m hm => ih m (by simp [hm]) _,
        tokens_gap (hstyle.gap _), List.nil_append, List.nil_append, tokens_objectClose]

end Printing

/-! ## Reading the tokens of a value -/

section Reading

open State

variable {limit n : Nat} {stack : List Frame}

theorem run_cons {s s' : State} {t : Token} (h : step limit s t = .ok s') (ts : List Token) :
    run limit s (t :: ts) = run limit s' ts := by
  simp [run, h, bind, Except.bind]

/-- A value does not start with the end of a list. -/
theorem tokensOf_eq_cons (v : Json) : ∃ t ts, tokensOf v = t :: ts ∧ t ≠ .listClose := by
  rcases v with _ | b | x | s | (_ | ⟨v, vs⟩) | (_ | ⟨⟨key, v⟩, ms⟩) <;>
    refine ⟨_, _, rfl, ?_⟩ <;>
    nofun

/-- Two states read a value alike if they differ only in what they make of the end of a list. -/
theorem run_tokensOf_congr {s s' : State}
    (h : ∀ t, t ≠ .listClose → step limit s t = step limit s' t) (v : Json) (ts : List Token) :
    run limit s (tokensOf v ++ ts) = run limit s' (tokensOf v ++ ts) := by
  obtain ⟨t, ts', he, ht⟩ := tokensOf_eq_cons v
  rw [he, List.cons_append, run, List.foldlM_cons, h t ht]
  rfl

/-- The first item of a list is read as a value. -/
theorem run_listStart (v : Json) (ts : List Token) :
    run limit (.listStart stack) (tokensOf v ++ ts) =
      run limit (.value (.list [] :: stack)) (tokensOf v ++ ts) :=
  run_tokensOf_congr (fun t ht => by cases t <;> first | rfl | contradiction) v ts

/-- An item after a comma is read as a value. -/
theorem run_listItem (items : List Json) (v : Json) (ts : List Token) :
    run limit (.listItem items stack) (tokensOf v ++ ts) =
      run limit (.value (.list items :: stack)) (tokensOf v ++ ts) :=
  run_tokensOf_congr (fun t ht => by cases t <;> first | rfl | contradiction) v ts

/-- The tokens of a value can be read where the value is due. -/
def ReadsBack (limit : Nat) (stack : List Frame) (v : Json) : Prop :=
  ∀ ts, run limit (.value stack) (tokensOf v ++ ts) = run limit (complete v stack) ts

/-- The step of `run_tokensOf` for the items of a list after the first one. -/
theorem run_itemTokens {vs : List Json}
    (ih : ∀ v ∈ vs, ∀ items, ReadsBack limit (.list items :: stack) v) (items : List Json)
    (ts : List Token) :
    run limit (.listNext items stack) (itemTokens vs ++ ts) =
      run limit (.listNext (vs.reverse ++ items) stack) ts := by
  -- The frame holds what was read so far in reverse, so the items pass through it one by one.
  induction vs generalizing items with
  | nil => rfl
  | cons v vs ihvs =>
    rw [itemTokens, List.cons_append, List.append_assoc, run_cons rfl, run_listItem,
      ih v (by simp) items, complete, ihvs fun v hv => ih v (by simp [hv])]
    simp

/-- The step of `run_tokensOf` for the members of an object after the first one. -/
theorem run_memberTokens {ms : List (String × Json)}
    (ih : ∀ m ∈ ms, ∀ members key, ReadsBack limit (.member members key :: stack) m.2)
    (members : List (String × Json)) (ts : List Token) :
    run limit (.objectNext members stack) (memberTokens ms ++ ts) =
      run limit (.objectNext (ms.reverse ++ members) stack) ts := by
  induction ms generalizing members with
  | nil => rfl
  | cons m ms ihms =>
    obtain ⟨key, v⟩ := m
    rw [memberTokens, List.cons_append, List.cons_append, List.cons_append, List.append_assoc,
      run_cons rfl, run_cons rfl, run_cons rfl, ih (key, v) (by simp) members key, complete,
      ihms fun m hm => ih m (by simp [hm])]
    simp

/-- **The tokens of a value complete it**, if there is room for its containers. -/
theorem run_tokensOf {v : Json} (hv : Plain n v) (hroom : stack.length + n ≤ limit) :
    ReadsBack limit stack v := by
  induction hv generalizing stack with
  | null => exact fun ts => run_cons rfl ts
  | bool b => exact fun ts => run_cons rfl ts
  | str s => exact fun ts => run_cons rfl ts
  | @arr n items h ih =>
    intro ts
    -- Opening the list is where the room is asked for; its items stand on one more frame.
    have hopen : step limit (.value stack) .listOpen = .ok (.listStart stack) :=
      if_pos (by omega)
    cases items with
    | nil =>
      rw [tokensOf, List.cons_append, run_cons hopen]
      exact run_cons rfl ts
    | cons v vs =>
      have hitem : ∀ v' ∈ v :: vs, ∀ items, ReadsBack limit (.list items :: stack) v' :=
        fun v' hv' items => ih v' hv' (by simp only [List.length_cons]; omega)
      rw [tokensOf, List.cons_append, List.append_assoc, List.append_assoc, run_cons hopen,
        run_listStart, hitem v (by simp), complete,
        run_itemTokens fun v' hv' => hitem v' (by simp [hv'])]
      exact (run_cons rfl ts).trans (by simp)
  | @obj n members h ih =>
    intro ts
    have hopen : step limit (.value stack) .objectOpen = .ok (.objectStart stack) :=
      if_pos (by omega)
    rcases members with _ | ⟨⟨key, v⟩, ms⟩
    · rw [tokensOf, List.cons_append, run_cons hopen]
      exact run_cons rfl ts
    · have hmember : ∀ m ∈ (key, v) :: ms, ∀ members key,
          ReadsBack limit (.member members key :: stack) m.2 :=
        fun m hm members key => ih m hm (by simp only [List.length_cons]; omega)
      rw [tokensOf, List.cons_append, List.cons_append, List.cons_append, List.append_assoc,
        List.append_assoc, run_cons hopen, run_cons rfl, run_cons rfl,
        hmember (key, v) (by simp), complete,
        run_memberTokens fun m hm => hmember m (by simp [hm])]
      exact (run_cons rfl ts).trans (by simp)

end Reading

/-! ## Printing and reading -/

/-- **A printed value reads back**, in every layout whose gaps are whitespace. -/
theorem readWithin_print {style : Layout} (hstyle : style.Blank) {limit : Nat} {v : Json}
    (hv : Plain limit v) : readWithin limit (print style 0 v) = .ok v := by
  have htokens : tokens (print style 0 v) = tokensOf v := by
    have hprint := tokens_print hstyle hv 0 []
    simpa [tokens] using hprint
  have hrun : State.run limit (.value []) (tokensOf v) = .ok (.finished v) := by
    have hread : ReadsBack limit [] v := run_tokensOf hv (by simp)
    rw [← List.append_nil (tokensOf v), hread []]
    rfl
  rw [readWithin, htokens, hrun]
  rfl

/-- The text of a value over several lines reads back. -/
theorem read_pretty {v : Json} (hv : Plain nestingLimit v) : read v.pretty = .ok v := by
  rw [read, pretty, String.toList_ofList, readWithin_print Layout.blank_indented hv]

/-- The text of a value on one line reads back. -/
theorem read_compact {v : Json} (hv : Plain nestingLimit v) : read v.compact = .ok v := by
  rw [read, compact, String.toList_ofList, readWithin_print Layout.blank_dense hv]

end SchemaWorkbench.Json
