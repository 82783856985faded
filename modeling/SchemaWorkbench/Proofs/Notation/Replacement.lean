import SchemaWorkbench.Proofs.Notation.Occurrence
import SchemaWorkbench.Proofs.Notation.Segments

/-!
# Another text between the parentheses

The group that is read in a line stays the one that is read, whatever other text stands between its
parentheses, as long as that is not empty and does not end the group earlier. Its name is found
before the text between the parentheses is looked at. And where a group could start further to the
left, a parenthesis opens in front of the name; what follows it up to the name decides whether it is
a group, since it may only be refused for being closed at once.

The dash and the whitespace that are taken off a line belong to no group, so that the group is
looked for in the line itself.

## Main definitions

* `Group.Occurrence.withContent`: the text with something else between the parentheses of a group

## Main results

* `Group.Occurrence.IsLeftmost.find?_eq`: the leftmost group is the one that is found
* `Group.Occurrence.IsLeftmost.replace`: it is the leftmost group of the other text as well
* `columnLine?_eq_of_head`: the column of a line that starts with a dash
* `Group.Occurrence.IsLeftmost.columnLine?_withContent`: the column of the other line
-/

namespace SchemaWorkbench.Notation

open Text

namespace Group

/-! ## Where a group can start -/

/-- A group starts a text exactly when a name, whitespace and an opening parenthesis do, and a
closing one follows, but not at once. -/
theorem isSome_atStart?_iff {cs : List Char} : (atStart? cs).isSome ↔
    ∃ name gap inner, cs = name ++ (gap ++ '(' :: inner) ∧ name ≠ [] ∧
      (∀ c ∈ name, isWordChar c) ∧ (∀ c ∈ gap, isWhitespace c) ∧ ')' ∈ inner ∧
      inner.head? ≠ some ')' := by
  constructor
  · intro h
    obtain ⟨g, hg⟩ := Option.isSome_iff_exists.mp h
    obtain ⟨o, hbefore, -⟩ := exists_occurrence_of_atStart? hg
    refine ⟨o.name, o.gap, o.content ++ ')' :: o.after, ?_, o.name_ne_nil, o.name_word,
      o.gap_whitespace, by simp, ?_⟩
    · have htext := o.text_eq
      rw [hbefore, List.nil_append] at htext
      exact htext.symm
    · rw [List.head?_append_of_ne_nil _ o.content_ne_nil]
      exact fun hhead => o.close_notMem (List.mem_of_head? hhead)
  · rintro ⟨name, gap, inner, rfl, hne, hname, hgap, hclose, hhead⟩
    obtain ⟨content, after, rfl, hcontent⟩ := List.eq_append_cons_of_mem hclose
    have hcontentNe : content ≠ [] := by
      rintro rfl
      exact hhead rfl
    rw [atStart?_append hne hname hgap hcontentNe hcontent after]
    rfl

/-- If a name, whitespace and an opening parenthesis start a text that goes on with a character of a
name at some place, the parenthesis stands in front of that place, or only characters of the name
do. -/
theorem word_or_open {front rest name gap inner : List Char} {c : Char} (hc : isWordChar c)
    (hname : ∀ d ∈ name, isWordChar d) (hgap : ∀ d ∈ gap, isWhitespace d)
    (htext : front ++ c :: rest = name ++ (gap ++ '(' :: inner)) :
    (∀ d ∈ front, isWordChar d) ∨
      ∃ mid, front = name ++ (gap ++ '(' :: mid) ∧ inner = mid ++ c :: rest := by
  have htext : front ++ c :: rest = (name ++ (gap ++ ['('])) ++ inner := by simpa using htext
  rcases List.append_eq_append_iff.mp htext with ⟨mid, hparts, hrest⟩ | ⟨mid, hfront, hinner⟩
  · cases mid with
    | nil => exact .inr ⟨[], by simpa using hparts.symm, by simpa using hrest.symm⟩
    | cons d mid =>
      obtain ⟨rfl, -⟩ := List.cons.inj hrest
      left
      rcases List.append_eq_append_iff.mp hparts with ⟨tail, -, htail⟩ | ⟨tail, hword, -⟩
      · -- The character is neither whitespace nor the parenthesis.
        have hmem : c ∈ gap ++ ['('] := by simp [htail]
        rcases List.mem_append.mp hmem with hmem | hmem
        · have hspace := isWhitespace_of_isWordChar hc
          rw [hgap c hmem] at hspace
          contradiction
        · rw [List.mem_singleton.mp hmem] at hc
          exact absurd hc (by decide)
      · intro d hd
        exact hname d (hword ▸ List.mem_append_left tail hd)
  · exact .inr ⟨mid, by simpa using hfront, hinner⟩

/-- Whether a group starts in front of another one does not depend on what stands behind the first
character of that one. -/
theorem isSome_atStart?_append {front rest rest' : List Char} {c : Char} (hc : isWordChar c)
    (hgroup : (atStart? (c :: rest')).isSome) (h : (atStart? (front ++ c :: rest)).isSome) :
    (atStart? (front ++ c :: rest')).isSome := by
  rw [isSome_atStart?_iff] at hgroup h ⊢
  obtain ⟨name', gap', inner', htext', hne', hname', hgap', hclose', hhead'⟩ := hgroup
  obtain ⟨name, gap, inner, htext, hne, hname, hgap, -, hhead⟩ := h
  rcases word_or_open hc hname hgap htext with hfront | ⟨mid, hfront, hinner⟩
  · -- The name of the other group is the end of a longer one.
    refine ⟨front ++ name', gap', inner', by rw [htext', List.append_assoc], ?_, ?_, hgap',
      hclose', hhead'⟩
    · exact List.append_ne_nil_of_right_ne_nil front hne'
    · exact List.forall_mem_append.mpr ⟨hfront, hname'⟩
  · refine ⟨name, gap, mid ++ c :: rest', by simp [hfront], hne, hname, hgap, ?_, ?_⟩
    · rw [htext']
      simp [hclose']
    · rw [hinner] at hhead
      cases mid <;> exact hhead

namespace Occurrence

variable {cs : List Char}

/-- The text with something else between the parentheses of the group. -/
def withContent (o : Occurrence cs) (content : List Char) : List Char :=
  o.before ++ (o.name ++ (o.gap ++ '(' :: (content ++ ')' :: o.after)))

/-- The group of that text. -/
def replace (o : Occurrence cs) (content : List Char) (hne : content ≠ [])
    (hclose : ')' ∉ content) : Occurrence (o.withContent content) :=
  { o with
    content
    text_eq := rfl
    content_ne_nil := hne
    close_notMem := hclose }

@[simp] theorem before_shift (front : List Char) (o : Occurrence cs) :
    (o.shift front).before = front ++ o.before := rfl

/-- Where a group starts a part of the text, there is a group of the text. -/
theorem exists_occurrence_of_isSome {before rest : List Char} (htext : before ++ rest = cs)
    (h : (atStart? rest).isSome) : ∃ o : Occurrence cs, o.before = before := by
  subst htext
  obtain ⟨g, hg⟩ := Option.isSome_iff_exists.mp h
  obtain ⟨o, hbefore, -⟩ := exists_occurrence_of_atStart? hg
  exact ⟨o.shift before, by rw [before_shift, hbefore, List.append_nil]⟩

/-- The leftmost group is the one that is found. -/
theorem IsLeftmost.find?_eq {o : Occurrence cs} (h : o.IsLeftmost) : find? cs = some o.group := by
  obtain ⟨g, hg⟩ := Option.isSome_iff_exists.mp o.isSome_find?
  obtain ⟨o', hleft, hgroup⟩ := exists_isLeftmost_of_find? hg
  rw [hg, ← hgroup, eq_of_length_eq (Nat.le_antisymm (hleft o) (h o'))]

/-- **The leftmost group stays the leftmost one** with another text between its parentheses. -/
theorem IsLeftmost.replace {o : Occurrence cs} (h : o.IsLeftmost) {content : List Char}
    (hne : content ≠ []) (hclose : ')' ∉ content) : (o.replace content hne hclose).IsLeftmost := by
  intro o'
  show o.before.length ≤ o'.before.length
  by_contra hlt
  obtain ⟨c, name, hname⟩ := List.exists_cons_of_ne_nil o.name_ne_nil
  -- The other group starts in front of the name, in both texts.
  obtain ⟨front, hfront, hrest⟩ : ∃ front, o.before = o'.before ++ front ∧
      o'.name ++ (o'.gap ++ '(' :: (o'.content ++ ')' :: o'.after)) =
        front ++ (o.name ++ (o.gap ++ '(' :: (content ++ ')' :: o.after))) := by
    rcases List.append_eq_append_iff.mp o'.text_eq with ⟨front, hfront, hrest⟩ | ⟨front, hfront, -⟩
    · exact ⟨front, hfront, hrest⟩
    · have hlength := congrArg List.length hfront
      rw [List.length_append] at hlength
      omega
  have hother : (atStart? (front ++ c :: (name ++
      (o.gap ++ '(' :: (content ++ ')' :: o.after))))).isSome := by
    rw [← List.cons_append, ← hname, ← hrest, o'.atFront.atStart?_eq rfl]
    rfl
  have hgroup : (atStart? (c :: (name ++
      (o.gap ++ '(' :: (o.content ++ ')' :: o.after))))).isSome := by
    rw [← List.cons_append, ← hname, o.atFront.atStart?_eq rfl]
    rfl
  have hc : isWordChar c := o.name_word c (hname ▸ List.mem_cons_self)
  have htext : o'.before ++ (front ++ c :: (name ++
      (o.gap ++ '(' :: (o.content ++ ')' :: o.after)))) = cs := by
    rw [← List.cons_append, ← hname, ← List.append_assoc, ← hfront, o.text_eq]
  obtain ⟨further, hbefore⟩ :=
    exists_occurrence_of_isSome htext (isSome_atStart?_append hc hgroup hother)
  exact hlt (hbefore ▸ h further)

end Occurrence

/-! ## The group of a line -/

/-- No group starts with a character that is not a part of a name. -/
theorem find?_append_of_not_isWordChar {front : List Char}
    (hfront : ∀ c ∈ front, isWordChar c = false) (cs : List Char) :
    find? (front ++ cs) = find? cs := by
  induction front with
  | nil => rfl
  | cons c front ih =>
    rw [List.forall_mem_cons] at hfront
    have hnone : atStart? (c :: (front ++ cs)) = none := by
      by_contra hsome
      obtain ⟨name, gap, inner, htext, hne, hname, -⟩ :=
        isSome_atStart?_iff.mp (Option.isSome_iff_ne_none.mpr hsome)
      obtain ⟨d, name, rfl⟩ := List.exists_cons_of_ne_nil hne
      obtain ⟨rfl, -⟩ := List.cons.inj htext
      have hword := hname c List.mem_cons_self
      rw [hfront.1] at hword
      contradiction
    rw [List.cons_append, find?, hnone, ih hfront.2]
    rfl

/-- The group in the text with more behind it. -/
def Occurrence.extend {cs : List Char} (o : Occurrence cs) (back : List Char) :
    Occurrence (cs ++ back) :=
  { o with
    after := o.after ++ back
    text_eq := by simpa using congrArg (· ++ back) o.text_eq }

/-- A group of a text with whitespace behind it is a group of the text: the closing parenthesis is
no whitespace. -/
theorem Occurrence.exists_of_append_gap {cs gap : List Char} (hgap : ∀ c ∈ gap, isWhitespace c)
    (o : Occurrence (cs ++ gap)) :
    ∃ o' : Occurrence cs, o'.before = o.before ∧ o'.group = o.group := by
  obtain ⟨after, hafter⟩ : ∃ after,
      o.before ++ (o.name ++ (o.gap ++ '(' :: (o.content ++ ')' :: after))) = cs := by
    have htext : (o.before ++ (o.name ++ (o.gap ++ '(' :: o.content))) ++ [')'] ++ o.after =
        cs ++ gap := by
      simpa using o.text_eq
    rcases List.append_eq_append_iff.mp htext with ⟨mid, hcs, -⟩ | ⟨mid, hgroup, hrest⟩
    · exact ⟨mid, by simp [hcs]⟩
    · rcases List.eq_nil_or_concat' mid with rfl | ⟨mid, c, rfl⟩
      · exact ⟨[], by simpa using hgroup⟩
      · rw [← List.append_assoc cs] at hgroup
        obtain ⟨-, hclose⟩ := List.append_inj' hgroup rfl
        obtain rfl : ')' = c := List.head_eq_of_cons_eq hclose
        have hspace : isWhitespace ')' := hgap _ (by simp [hrest])
        exact absurd hspace (by decide)
  exact ⟨{ o with after, text_eq := hafter }, rfl, rfl⟩

/-- Whitespace behind a text belongs to no group. -/
theorem find?_append_gap {gap : List Char} (hgap : ∀ c ∈ gap, isWhitespace c) (cs : List Char) :
    find? (cs ++ gap) = find? cs := by
  cases h : find? (cs ++ gap) with
  | some g =>
    obtain ⟨o, hleft, rfl⟩ := exists_isLeftmost_of_find? h
    obtain ⟨o', hbefore, hgroup⟩ := o.exists_of_append_gap hgap
    have hleft' : o'.IsLeftmost := by
      intro p
      have hle : o.before.length ≤ p.before.length := hleft (p.extend gap)
      rwa [← hbefore] at hle
    rw [hleft'.find?_eq, hgroup]
  | none =>
    symm
    by_contra hsome
    obtain ⟨g, hg⟩ := Option.ne_none_iff_exists'.mp hsome
    obtain ⟨p, -, -⟩ := exists_isLeftmost_of_find? hg
    have hfound := (p.extend gap).isSome_find?
    rw [h] at hfound
    contradiction

/-- The whitespace around a text belongs to no group. -/
theorem find?_trim (cs : List Char) : find? (trim cs) = find? cs := by
  obtain ⟨front, back, hcs, hfront, hback⟩ := exists_eq_append_trim_append cs
  have hword : ∀ c ∈ front, isWordChar c = false := by
    intro c hc
    by_contra hword
    have hspace := isWhitespace_of_isWordChar (by simpa using hword)
    rw [hfront c hc] at hspace
    contradiction
  rw [← congrArg find? hcs, find?_append_gap hback, find?_append_of_not_isWordChar hword]

end Group

/-- **The column of a line that starts with a dash** is that of the line taken as a definition. -/
theorem columnLine?_eq_of_head {line : List Char} (h : (trim line).head? = some '-') :
    columnLine? line = columnDefinition? line := by
  obtain ⟨definition, hline⟩ := List.head?_eq_some_iff.mp h
  have hdash : ∀ c ∈ ['-'], isWordChar c = false := List.forall_mem_singleton.mpr (by decide)
  have hfind : Group.find? (trim definition) = Group.find? line := by
    rw [Group.find?_trim, ← Group.find?_trim line, hline, ← List.singleton_append,
      Group.find?_append_of_not_isWordChar hdash]
  rw [columnLine?, hline, columnDefinition?, ← hfind]
  rfl

/-- **The column of the line with another text between the parentheses** of its leftmost group is
that of the same name with this text. -/
theorem Group.Occurrence.IsLeftmost.columnLine?_withContent {line : List Char} {c : Column}
    {o : Group.Occurrence line} (hleft : o.IsLeftmost) (h : columnLine? line = some c)
    {content : List Char} (hne : content ≠ []) (hclose : ')' ∉ content) :
    columnLine? (o.withContent content) = some (Group.column ⟨o.name, content⟩) := by
  have hline := head?_trim_of_columnLine? h
  -- The dash stands before the name, which is no whitespace.
  obtain ⟨ch, hch⟩ : ∃ ch, (o.before ++ o.name).find? (fun c => !isWhitespace c) = some ch := by
    obtain ⟨ch, hch⟩ := List.exists_mem_of_ne_nil _ o.name_ne_nil
    refine Option.isSome_iff_exists.mp (List.find?_isSome.mpr ⟨ch, by simp [hch], ?_⟩)
    simp [isWhitespace_of_isWordChar (o.name_word ch hch)]
  have hhead (rest : List Char) : (trim (o.before ++ (o.name ++ rest))).head? = some ch := by
    rw [head?_trim, ← List.append_assoc, List.find?_append, hch]
    rfl
  have hdash : ch = '-' := by
    rw [← o.text_eq, hhead] at hline
    exact Option.some.inj hline
  rw [columnLine?_eq_of_head (by rw [Group.Occurrence.withContent, hhead, hdash]),
    columnDefinition?, (hleft.replace hne hclose).find?_eq]
  rfl

end SchemaWorkbench.Notation
