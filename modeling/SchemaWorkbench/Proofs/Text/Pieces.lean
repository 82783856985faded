import Mathlib.Data.List.Forall2
import SchemaWorkbench.Text.Pieces

/-!
# Texts put together and cut again

Pieces that are put together with a separator are found again by cutting at the separator, if it
occurs in none of them, and lines that are put together with line feeds are found again as the lines
of the text. A line must not end with a carriage return then, which would be taken for a part of the
line ending, and an empty line at the very end would be lost.

## Main results

* `intercalate_cons`: the pieces after the first one, each with its separator
* `pieces_append_cons`: a separator cuts a text, whatever stands around it
* `pieces_intercalate`: pieces are found again
* `takeWhile_append_cons`, `dropWhile_append_cons`: a run of characters and what follows it
* `cutAt?_append`: a text is cut at the first occurrence of a character
* `lines_intercalate`, `lines_flatMap`: lines are found again, with line feeds between them and with
  a line feed after each of them
* `exists_pieces_of_lines`: lines are the pieces between line feeds, but for their line endings
-/

namespace SchemaWorkbench.Text

/-! ## Separators -/

/-- The pieces after the first one follow it, each after its separator. -/
theorem intercalate_cons (sep part : List Char) (parts : List (List Char)) :
    sep.intercalate (part :: parts) = part ++ parts.flatMap (sep ++ ·) := by
  induction parts generalizing part with
  | nil => rw [List.intercalate_singleton, List.flatMap_nil, List.append_nil]
  | cons next parts ih =>
    rw [List.intercalate_cons_cons, ih, List.flatMap_cons, List.append_assoc, List.append_assoc]

/-- What a separator ends with can be counted to the pieces that follow it. -/
theorem intercalate_append (sep gap part : List Char) (parts : List (List Char)) :
    (sep ++ gap).intercalate (part :: parts) = sep.intercalate (part :: parts.map (gap ++ ·)) := by
  simp [intercalate_cons, List.flatMap_map]

theorem not_mem_intercalate {c : Char} {sep : List Char} {parts : List (List Char)}
    (hsep : c ∉ sep) (hparts : ∀ part ∈ parts, c ∉ part) : c ∉ sep.intercalate parts := by
  cases parts with
  | nil => simp
  | cons part parts =>
    rw [List.forall_mem_cons] at hparts
    rw [intercalate_cons, List.mem_append, List.mem_flatMap, not_or]
    refine ⟨hparts.1, ?_⟩
    rintro ⟨next, hnext, hc⟩
    rcases List.mem_append.mp hc with hc | hc
    · exact hsep hc
    · exact hparts.2 next hnext hc

/-- Cutting a text at the characters that satisfy a predicate is splitting the list of its
characters. -/
theorem pieces_eq_splitOnP (p : Char → Bool) (cs : List Char) : pieces p cs = cs.splitOnP p := by
  induction cs with
  | nil => rfl
  | cons c cs ih =>
    rw [pieces, ih, List.splitOnP_cons_eq_if_modifyHead]
    cases h : cs.splitOnP p with
    | nil => exact absurd h (List.splitOnP_ne_nil p cs)
    | cons piece rest => rfl

/-- There is always a first piece. -/
theorem exists_pieces_eq_cons (p : Char → Bool) (cs : List Char) :
    ∃ piece rest, pieces p cs = piece :: rest := by
  rw [pieces_eq_splitOnP]
  exact List.exists_cons_of_ne_nil (List.splitOnP_ne_nil p cs)

/-- A separator cuts a text, whatever stands around it. -/
theorem pieces_append_cons {p : Char → Bool} {sep : Char} (hsep : p sep) (cs ds : List Char) :
    pieces p (cs ++ sep :: ds) = pieces p cs ++ pieces p ds := by
  rw [pieces_eq_splitOnP, pieces_eq_splitOnP, pieces_eq_splitOnP,
    List.splitOnP_append_cons cs ds hsep]

/-- A text without the separator is its only piece. -/
theorem pieces_eq_singleton {sep : Char} {cs : List Char} (h : sep ∉ cs) :
    pieces (· = sep) cs = [cs] := by
  rw [pieces_eq_splitOnP]
  exact List.splitOnP_eq_singleton fun c hc => decide_eq_false fun heq => h (heq ▸ hc)

/-- A character that is no separator belongs to the piece that follows it. -/
theorem pieces_cons_of_not {p : Char → Bool} {c : Char} {cs piece : List Char}
    {rest : List (List Char)} (hc : p c = false) (h : pieces p cs = piece :: rest) :
    pieces p (c :: cs) = (c :: piece) :: rest := by
  rw [pieces, if_neg (by simp [hc]), h]

/-- A piece holds characters of the text, and no separators. -/
theorem of_mem_pieces {p : Char → Bool} {cs piece : List Char} (h : piece ∈ pieces p cs) :
    ∀ c ∈ piece, c ∈ cs ∧ p c = false := by
  induction cs generalizing piece with
  | nil =>
    rw [List.mem_singleton.mp h]
    exact List.forall_mem_nil _
  | cons d cs ih =>
    have hrest {piece : List Char} (h : piece ∈ pieces p cs) :
        ∀ c ∈ piece, c ∈ d :: cs ∧ p c = false :=
      fun c hc => (ih h c hc).imp_left (List.mem_cons_of_mem d)
    by_cases hd : p d
    · rw [pieces, if_pos hd, List.mem_cons] at h
      rcases h with rfl | h
      · exact List.forall_mem_nil _
      · exact hrest h
    · obtain ⟨first, others, hcs⟩ := exists_pieces_eq_cons p cs
      rw [hcs, List.forall_mem_cons] at hrest
      have hd : p d = false := Bool.eq_false_iff.mpr hd
      rw [pieces_cons_of_not hd hcs, List.mem_cons] at h
      rcases h with rfl | h
      · exact List.forall_mem_cons.mpr ⟨⟨List.mem_cons_self, hd⟩, hrest.1⟩
      · exact hrest.2 piece h

/-- **Pieces are found again** if the separator occurs in none of them. -/
theorem pieces_intercalate {sep : Char} {parts : List (List Char)}
    (hsep : ∀ part ∈ parts, sep ∉ part) (hne : parts ≠ []) :
    pieces (· = sep) ([sep].intercalate parts) = parts := by
  have hsplit := List.splitOn_intercalate sep hsep hne
  rw [List.splitOn_eq_splitOnP, ← pieces_eq_splitOnP] at hsplit
  exact hsplit

/-- A run of characters ends where the first other character stands. -/
theorem takeWhile_append_cons {p : Char → Bool} {run : List Char} {c : Char}
    (hrun : ∀ d ∈ run, p d) (hc : p c = false) (rest : List Char) :
    (run ++ c :: rest).takeWhile p = run := by
  rw [List.takeWhile_append_of_pos hrun, List.takeWhile_cons_of_neg (by simp [hc]),
    List.append_nil]

theorem dropWhile_append_cons {p : Char → Bool} {run : List Char} {c : Char}
    (hrun : ∀ d ∈ run, p d) (hc : p c = false) (rest : List Char) :
    (run ++ c :: rest).dropWhile p = c :: rest := by
  rw [List.dropWhile_append_of_pos hrun, List.dropWhile_cons_of_neg (by simp [hc])]

theorem cutAt?_append {sep : Char} {before : List Char} (h : sep ∉ before) (after : List Char) :
    cutAt? sep (before ++ sep :: after) = some (before, after) := by
  induction before with
  | nil => simp [cutAt?]
  | cons c before ih =>
    rw [List.mem_cons, not_or] at h
    rw [List.cons_append, cutAt?, if_neg (Ne.symm h.1), ih h.2]
    rfl

theorem cutAt?_of_notMem {sep : Char} {cs : List Char} (h : sep ∉ cs) : cutAt? sep cs = none := by
  induction cs with
  | nil => rfl
  | cons c cs ih =>
    rw [List.mem_cons, not_or] at h
    rw [cutAt?, if_neg (Ne.symm h.1), ih h.2]
    rfl

/-! ## Lines -/

variable {line : List Char}

/-- A character that ends no line belongs to the line that follows it. -/
theorem lines_cons {c : Char} {cs : List Char} {rest : List (List Char)} (hfeed : c ≠ '\n')
    (hreturn : c = '\r' → cs.head? ≠ some '\n') (h : lines cs = line :: rest) :
    lines (c :: cs) = (c :: line) :: rest := by
  rw [lines, h]
  · exact hfeed
  · rintro ds hc rfl
    exact hreturn hc rfl

/-- A line ends at its line feed, if it has no line ending of its own. -/
theorem lines_append (hfeed : '\n' ∉ line) (hreturn : '\r' ∉ line.getLast?) (rest : List Char) :
    lines (line ++ '\n' :: rest) = line :: lines rest := by
  induction line with
  | nil => rw [List.nil_append, lines]
  | cons c line ih =>
    rw [List.mem_cons, not_or] at hfeed
    have hc : c ≠ '\n' := Ne.symm hfeed.1
    cases line with
    | nil =>
      -- The last character of the line comes before the line feed.
      have hlast : c ≠ '\r' := by simpa using hreturn
      exact lines_cons hc (fun h => absurd h hlast) (ih hfeed.2 (by simp))
    | cons d line =>
      rw [List.getLast?_cons_cons] at hreturn
      have hd : d ≠ '\n' := fun h => hfeed.2 (h ▸ List.mem_cons_self)
      exact lines_cons hc (fun _ h => hd (Option.some.inj h)) (ih hfeed.2 hreturn)

/-- A text without line feeds is its only line. -/
theorem lines_singleton (hne : line ≠ []) (hfeed : '\n' ∉ line) : lines line = [line] := by
  induction line with
  | nil => contradiction
  | cons c line ih =>
    rw [List.mem_cons, not_or] at hfeed
    have hc : c ≠ '\n' := Ne.symm hfeed.1
    cases line with
    | nil =>
      rw [lines, lines]
      · exact hc
      · rintro cs - ⟨⟩
    | cons d line =>
      have hd : d ≠ '\n' := fun h => hfeed.2 (h ▸ List.mem_cons_self)
      exact lines_cons hc (fun _ h => hd (Option.some.inj h)) (ih (by simp) hfeed.2)

variable {ls : List (List Char)}

/-- **Lines are found again** with a line feed after each of them. -/
theorem lines_flatMap (h : ∀ l ∈ ls, '\n' ∉ l ∧ '\r' ∉ l.getLast?) :
    lines (ls.flatMap (· ++ ['\n'])) = ls := by
  induction ls with
  | nil => rw [List.flatMap_nil, lines]
  | cons l ls ih =>
    rw [List.forall_mem_cons] at h
    rw [List.flatMap_cons, List.append_assoc, List.singleton_append, lines_append h.1.1 h.1.2,
      ih h.2]

/-- **Lines are found again** with line feeds between them, if none of them is empty. -/
theorem lines_intercalate (h : ∀ l ∈ ls, '\n' ∉ l ∧ '\r' ∉ l.getLast?) (hne : [] ∉ ls) :
    lines (['\n'].intercalate ls) = ls := by
  cases ls with
  | nil => rw [List.intercalate_nil, lines]
  | cons l ls =>
    induction ls generalizing l with
    | nil =>
      rw [List.intercalate_singleton]
      exact lines_singleton (fun hl => hne (by simp [hl])) (h l List.mem_cons_self).1
    | cons next ls ih =>
      rw [List.forall_mem_cons] at h
      rw [List.mem_cons, not_or] at hne
      rw [List.intercalate_cons_cons, List.append_assoc, List.singleton_append,
        lines_append h.1.1 h.1.2, ih next h.2 hne.2]

/-- No line holds a line feed. -/
theorem feed_notMem_of_mem_lines {cs : List Char} : ∀ l ∈ lines cs, '\n' ∉ l := by
  fun_induction lines cs with
  | case1 => simp
  | case2 cs ih => simpa using ih
  | case3 cs ih => simpa using ih
  | case4 c cs hfeed hreturn hlines ih => simpa using Ne.symm hfeed
  | case5 c cs hfeed hreturn l ls hlines ih =>
    rw [hlines, List.forall_mem_cons] at ih
    rw [List.forall_mem_cons, List.mem_cons, not_or]
    exact ⟨⟨Ne.symm hfeed, ih.1⟩, ih.2⟩

/-! ## Lines as pieces between line feeds -/

/-- **Lines are the pieces between line feeds**, but for a carriage return before a line feed, which
belongs to the line ending, and for an empty piece after the last line feed, which is no line. -/
theorem exists_pieces_of_lines (cs : List Char) :
    ∃ ps rest, pieces (· = '\n') cs = ps ++ rest ∧ (rest = [] ∨ rest = [[]]) ∧
      List.Forall₂ (fun line piece => piece = line ∨ piece = line ++ ['\r']) (lines cs) ps := by
  fun_induction lines cs with
  | case1 => exact ⟨[], [[]], rfl, .inr rfl, .nil⟩
  | case2 cs ih =>
    obtain ⟨ps, rest, hpieces, hrest, hlines⟩ := ih
    refine ⟨[] :: ps, rest, ?_, hrest, .cons (.inl rfl) hlines⟩
    rw [pieces, if_pos (by simp), hpieces, List.cons_append]
  | case3 cs ih =>
    obtain ⟨ps, rest, hpieces, hrest, hlines⟩ := ih
    refine ⟨['\r'] :: ps, rest, ?_, hrest, .cons (.inr rfl) hlines⟩
    rw [← List.singleton_append, pieces_append_cons (by simp), hpieces]
    rfl
  | case4 c cs hfeed hreturn hlines ih =>
    -- Without further lines there is nothing but the empty piece after this character.
    obtain ⟨ps, rest, hpieces, hrest, hnone⟩ := ih
    rw [hlines, List.forall₂_nil_left_iff] at hnone
    subst hnone
    obtain ⟨first, others, hfirst⟩ := exists_pieces_eq_cons (· = '\n') cs
    rw [hpieces, List.nil_append] at hfirst
    rcases hrest with rfl | rfl
    · contradiction
    · refine ⟨[[c]], [], ?_, .inl rfl, .cons (.inl rfl) .nil⟩
      rw [List.append_nil]
      exact pieces_cons_of_not (by simpa using hfeed) hpieces
  | case5 c cs hfeed hreturn line others hlines ih =>
    obtain ⟨ps, rest, hpieces, hrest, hforall⟩ := ih
    rw [hlines] at hforall
    cases hforall with
    | @cons _ piece _ ps hpiece hforall =>
      refine ⟨(c :: piece) :: ps, rest, ?_, hrest, .cons ?_ hforall⟩
      · exact pieces_cons_of_not (by simpa using hfeed) hpieces
      · rcases hpiece with rfl | rfl
        · exact .inl rfl
        · exact .inr rfl

end SchemaWorkbench.Text
