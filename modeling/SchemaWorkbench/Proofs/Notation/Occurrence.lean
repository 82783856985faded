import SchemaWorkbench.Proofs.Notation.Items

/-!
# Where a group stands

A group of a text is a name, whitespace and a text without a closing parenthesis between
parentheses, with anything before and after it. A text may hold many of them, since every end of a
name is a name as well and a text between parentheses may hold opening ones. The reader takes a name
as far as it goes and never goes back. Nothing is missed by that: what follows a name in a group is
no character of a name, so that a group which starts at a given place is determined by the text.

So the leftmost group is the one with the shortest text before it, there is only one such group, and
its name is not cut out of a longer one.

## Main definitions

* `Group.Occurrence cs`: a group with its place in the text `cs`
* `Group.Occurrence.IsLeftmost`: no group of the text starts before it

## Main results

* `Group.Occurrence.eq_of_length_eq`: at most one group starts at a place
* `Group.exists_isLeftmost_of_find?`, `Group.Occurrence.isSome_find?`: the group that is found
* `columnDefinition?_leftmost`: which definitions have a column, and which column that is
-/

namespace SchemaWorkbench.Notation

open Text

namespace Group

/-- A group with its place in a text: the parts of the text, in their order. -/
@[ext]
structure Occurrence (cs : List Char) where
  before : List Char
  name : List Char
  gap : List Char
  content : List Char
  after : List Char
  text_eq : before ++ (name ++ (gap ++ '(' :: (content ++ ')' :: after))) = cs
  name_ne_nil : name ≠ []
  name_word : ∀ c ∈ name, isWordChar c
  gap_whitespace : ∀ c ∈ gap, isWhitespace c
  content_ne_nil : content ≠ []
  close_notMem : ')' ∉ content

namespace Occurrence

variable {cs : List Char}

/-- The group itself. -/
def group (o : Occurrence cs) : Group := ⟨o.name, o.content⟩

/-- No group of the text has less before it. -/
def IsLeftmost (o : Occurrence cs) : Prop :=
  ∀ o' : Occurrence cs, o.before.length ≤ o'.before.length

/-- The group in the text with more in front of it. -/
def shift (front : List Char) (o : Occurrence cs) : Occurrence (front ++ cs) :=
  { o with
    before := front ++ o.before
    text_eq := by rw [List.append_assoc, o.text_eq] }

/-- The group in the text without what stands before it. -/
def atFront (o : Occurrence cs) :
    Occurrence (o.name ++ (o.gap ++ '(' :: (o.content ++ ')' :: o.after))) :=
  { o with
    before := []
    text_eq := rfl }

/-- The group that starts a text is the one that is read there. -/
theorem atStart?_eq (o : Occurrence cs) (h : o.before = []) : atStart? cs = some o.group := by
  obtain ⟨before, name, gap, content, after, rfl, hne, hname, hgap, hcontent, hclose⟩ := o
  cases (show before = [] from h)
  exact atStart?_append hne hname hgap hcontent hclose after

/-- **At most one group starts at a place.** -/
theorem eq_of_length_eq {o o' : Occurrence cs} (h : o.before.length = o'.before.length) :
    o = o' := by
  obtain ⟨hbefore, hrest⟩ := List.append_inj (o.text_eq.trans o'.text_eq.symm) h
  -- The reader takes the same name and the same text between parentheses for both.
  have hgroup : o.group = o'.group := by
    have hread := congrArg atStart? hrest
    rw [o.atFront.atStart?_eq rfl, o'.atFront.atStart?_eq rfl] at hread
    exact Option.some.inj hread
  obtain ⟨hname, hcontent⟩ := Group.mk.inj hgroup
  rw [hname, hcontent] at hrest
  have hafterName := List.append_cancel_left hrest
  have hgap : o.gap = o'.gap := by
    have hopen : isWhitespace '(' = false := by decide
    have htake := congrArg (List.takeWhile isWhitespace) hafterName
    rwa [takeWhile_append_cons o.gap_whitespace hopen,
      takeWhile_append_cons o'.gap_whitespace hopen] at htake
  rw [hgap] at hafterName
  have hafterGap := List.tail_eq_of_cons_eq (List.append_cancel_left hafterName)
  have hafter := List.tail_eq_of_cons_eq (List.append_cancel_left hafterGap)
  exact Occurrence.ext hbefore hname hgap hcontent hafter

/-- The name of the leftmost group is not cut out of a longer one. -/
theorem IsLeftmost.not_isWordChar {o : Occurrence cs} (h : o.IsLeftmost) :
    ∀ c ∈ o.before.getLast?, isWordChar c = false := by
  intro c hc
  by_contra hword
  obtain ⟨front, hfront⟩ := List.getLast?_eq_some_iff.mp hc
  -- With the character before it, the name would be that of a group further to the left.
  let longer : Occurrence cs :=
    { o with
      before := front
      name := c :: o.name
      text_eq := by
        have htext := o.text_eq
        rwa [hfront, List.append_assoc] at htext
      name_ne_nil := List.cons_ne_nil c o.name
      name_word := List.forall_mem_cons.mpr ⟨by simpa using hword, o.name_word⟩ }
  have hle : o.before.length ≤ front.length := h longer
  rw [hfront, List.length_append, List.length_singleton] at hle
  omega

end Occurrence

/-! ## The group that is found -/

variable {cs : List Char} {g : Group}

/-- What is read at the start of a text is a group that starts it. -/
theorem exists_occurrence_of_atStart? (h : atStart? cs = some g) :
    ∃ o : Occurrence cs, o.before = [] ∧ o.group = g := by
  rw [atStart?] at h
  split at h
  · rename_i inner hopen
    dsimp only at h
    split at h
    · contradiction
    · rename_i hparts
      obtain ⟨hname, hcontent, hclosed⟩ := by simpa only [not_or] using hparts
      cases h
      -- What follows the text between the parentheses starts with the closing one.
      obtain ⟨after, hafter⟩ : ∃ after, inner.dropWhile (· ≠ ')') = ')' :: after := by
        obtain ⟨c, after, hcons⟩ := List.exists_cons_of_ne_nil hclosed
        have hhead := List.head?_dropWhile_not (fun c => decide (c ≠ ')')) inner
        rw [hcons, List.head?_cons] at hhead
        obtain rfl : c = ')' := by simpa using hhead
        exact ⟨after, hcons⟩
      let o : Occurrence cs :=
        { before := []
          name := cs.takeWhile isWordChar
          gap := (cs.dropWhile isWordChar).takeWhile isWhitespace
          content := inner.takeWhile (· ≠ ')')
          after
          text_eq := by
            rw [← hafter, List.takeWhile_append_dropWhile, ← hopen, trimStart,
              List.takeWhile_append_dropWhile, List.takeWhile_append_dropWhile, List.nil_append]
          name_ne_nil := hname
          name_word := fun c => List.mem_takeWhile_imp
          gap_whitespace := fun c => List.mem_takeWhile_imp
          content_ne_nil := hcontent
          close_notMem := fun h => by simpa using List.mem_takeWhile_imp h }
      exact ⟨o, rfl, rfl⟩
  · contradiction

/-- A text in which no group starts has only the groups of the text after its first character. -/
theorem Occurrence.exists_shift {c : Char} (hstart : atStart? (c :: cs) = none)
    (o : Occurrence (c :: cs)) : ∃ o' : Occurrence cs, o = o'.shift [c] := by
  cases hbefore : o.before with
  | nil =>
    rw [o.atStart?_eq hbefore] at hstart
    contradiction
  | cons d before =>
    have htext := o.text_eq
    rw [hbefore, List.cons_append] at htext
    obtain ⟨rfl, hrest⟩ := List.cons.inj htext
    exact ⟨{ o with before, text_eq := hrest }, Occurrence.ext hbefore rfl rfl rfl rfl⟩

/-- **The group that is found** is the leftmost one. -/
theorem exists_isLeftmost_of_find? (h : find? cs = some g) :
    ∃ o : Occurrence cs, o.IsLeftmost ∧ o.group = g := by
  induction cs with
  | nil => contradiction
  | cons c cs ih =>
    rw [find?] at h
    cases hstart : atStart? (c :: cs) with
    | some g' =>
      rw [hstart] at h
      obtain ⟨o, hbefore, hgroup⟩ := exists_occurrence_of_atStart? hstart
      refine ⟨o, fun o' => ?_, hgroup.trans (Option.some.inj h)⟩
      rw [hbefore]
      exact Nat.zero_le _
    | none =>
      rw [hstart] at h
      obtain ⟨o, hleft, hgroup⟩ := ih h
      refine ⟨o.shift [c], fun o' => ?_, hgroup⟩
      obtain ⟨o', rfl⟩ := o'.exists_shift hstart
      exact Nat.succ_le_succ (hleft o')

/-- **No group is missed.** -/
theorem Occurrence.isSome_find? (o : Occurrence cs) : (find? cs).isSome := by
  induction cs with
  | nil =>
    have htext := o.text_eq
    simp at htext
  | cons c cs ih =>
    rw [find?]
    cases hstart : atStart? (c :: cs) with
    | some g => rfl
    | none =>
      obtain ⟨o', -⟩ := o.exists_shift hstart
      exact ih o'

end Group

end SchemaWorkbench.Notation

namespace SchemaWorkbench

open Notation

/-- **Which definitions have a column, and which column that is.** A text has a column exactly when
a group stands in it, and then the column is that of the leftmost group. That group is the only one
with so little before it, and what is before it does not end with a character of a name. -/
theorem columnDefinition?_leftmost (definition : String) :
    ((columnDefinition? definition).isSome ↔ Nonempty (Group.Occurrence definition.toList)) ∧
      ∀ c, columnDefinition? definition = some c →
        ∃ o : Group.Occurrence definition.toList, o.IsLeftmost ∧ (∀ o', o'.IsLeftmost → o' = o) ∧
          (∀ ch ∈ o.before.getLast?, isWordChar ch = false) ∧
          c.name = String.ofList o.name ∧ c = Group.column ⟨o.name, o.content⟩ := by
  have hfound : columnDefinition? definition = (Group.find? definition.toList).map Group.column :=
    rfl
  rw [hfound, Option.isSome_map]
  refine ⟨⟨fun h => ?_, fun ⟨o⟩ => o.isSome_find?⟩, fun c hc => ?_⟩
  · obtain ⟨g, hg⟩ := Option.isSome_iff_exists.mp h
    obtain ⟨o, -⟩ := Group.exists_isLeftmost_of_find? hg
    exact ⟨o⟩
  · obtain ⟨g, hg, rfl⟩ := Option.map_eq_some_iff.mp hc
    obtain ⟨o, hleft, rfl⟩ := Group.exists_isLeftmost_of_find? hg
    refine ⟨o, hleft, fun o' hleft' => ?_, hleft.not_isWordChar, rfl, rfl⟩
    exact Group.Occurrence.eq_of_length_eq (Nat.le_antisymm (hleft' o) (hleft o'))

/-- Of a text with an empty and an unclosed group, a name without a group and a letter that no name
has, the leftmost group is read, up to the first closing parenthesis. -/
theorem column_of_leftmost_group :
    columnDefinition? "a() é(x b2 ab_ \u2003((INT) c(DATE)" =
        some { name := "ab_", type := "(INT" } ∧
      ∃ o : Group.Occurrence "a() é(x b2 ab_ \u2003((INT) c(DATE)".toList,
        o.name = "ab_".toList ∧ o.IsLeftmost := by
  have hcolumn : columnDefinition? "a() é(x b2 ab_ \u2003((INT) c(DATE)" =
      some { name := "ab_", type := "(INT" } := by
    decide +kernel
  refine ⟨hcolumn, ?_⟩
  obtain ⟨o, hleft, -, -, hname, -⟩ := (columnDefinition?_leftmost _).2 _ hcolumn
  exact ⟨o, String.ofList_injective (hname.symm.trans (String.ofList_toList).symm), hleft⟩

end SchemaWorkbench
