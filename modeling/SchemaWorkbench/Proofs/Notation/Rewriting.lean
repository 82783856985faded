import Mathlib.Logic.Relation
import SchemaWorkbench.Proofs.Notation.Description
import SchemaWorkbench.Proofs.Notation.Replacement
import SchemaWorkbench.Proofs.Text.LetterCase
import SchemaWorkbench.Proofs.Text.Padding

/-!
# Other ways to write a group

The text between the parentheses of a column can be written in other ways that describe the same
column. The first token is the type, and the others are flags. A word is looked for among all flags,
and a value is that of the first flag with its label. So the order of the flags does not matter,
apart from that of the references and that of the default values, and neither does a flag that
stands there already further to the front, or one that the parser does not know. The parser asks
this of the tokens as they are trimmed and in lower case; their whitespace and the case of their
letters do not matter at all.

## Main definitions

* `item`: a token as the parser looks at it
* `gives`, `IsKnown`: what the parser knows a flag by
* `ContentEdit`: one change of the text between the parentheses
* `SameFlags`, `SameContent`: what two lists of flags, and two such texts, have in common

## Main results

* `SameFlags.columnOf_eq`: the column of a list of flags
* `ContentEdit.sameContent`: what one change keeps
* `columnLine?_of_rewriting`: any number of changes keeps the column of a line
-/

namespace SchemaWorkbench.Notation

open Text

/-! ## Changes of a group -/

/-- The token as the parser looks at it. -/
def item (token : List Char) : List Char :=
  lower (trim token)

/-- The flag gives a value with the label. -/
def gives (label : Label) (flag : List Char) : Bool :=
  startsWithAny (item flag) label.starts

/-- The parser takes the flag for one of its words, or it gives a value. -/
def IsKnown (flag : List Char) : Prop :=
  (∃ f : Flag, String.ofList (item flag) ∈ f.words) ∨ ∃ label : Label, gives label flag

/-- The items of a group with the text between its parentheses. -/
def items (content : List Char) : List (List Char) :=
  (pieces (· = ',') content).map item

/-- The text with the tokens between its commas. -/
def joined (tokens : List (List Char)) : List Char :=
  [','].intercalate tokens

/-- One change of the text between the parentheses. -/
inductive ContentEdit : List Char → List Char → Prop
  /-- The flags are put in another order, but not the references among themselves, and not the
  default values among themselves. -/
  | permute (type : List Char) (flags flags' : List (List Char))
      (hcomma : ∀ token ∈ type :: flags, ',' ∉ token) (hperm : flags.Perm flags')
      (horder : ∀ label, flags.filter (gives label) = flags'.filter (gives label)) :
      ContentEdit (joined (type :: flags)) (joined (type :: flags'))
  /-- A flag is repeated behind itself. -/
  | repeated (type flag : List Char) (front back : List (List Char))
      (hcomma : ∀ token ∈ type :: (front ++ back), ',' ∉ token) (hflag : flag ∈ front) :
      ContentEdit (joined (type :: (front ++ back))) (joined (type :: (front ++ flag :: back)))
  /-- A flag that the parser does not know is put behind the type. -/
  | unknown (type flag : List Char) (front back : List (List Char))
      (hcomma : ∀ token ∈ type :: (front ++ back), ',' ∉ token)
      (hflag : ',' ∉ flag ∧ ')' ∉ flag) (hunknown : ¬ IsKnown flag) :
      ContentEdit (joined (type :: (front ++ back))) (joined (type :: (front ++ flag :: back)))
  /-- The case of ASCII letters is changed. -/
  | letterCase {content content' : List Char}
      (h : content.map Char.toLower = content'.map Char.toLower) : ContentEdit content content'
  /-- Whitespace is put at an end of the text, or around a comma. -/
  | pad {content content' : List Char} (h : Padding ',' content content') :
      ContentEdit content content'

/-! ## Flags -/

/-- The same words and the same first values are found among the flags. -/
structure SameFlags (flags flags' : List (List Char)) : Prop where
  hasFlag_eq : ∀ f : Flag, hasFlag flags f.words = hasFlag flags' f.words
  find?_eq : ∀ label : Label,
    flags.find? (startsWithAny · label.starts) = flags'.find? (startsWithAny · label.starts)

namespace SameFlags

variable {flags flags' flags'' : List (List Char)}

theorem refl (flags : List (List Char)) : SameFlags flags flags :=
  ⟨fun _ => rfl, fun _ => rfl⟩

theorem symm (h : SameFlags flags flags') : SameFlags flags' flags :=
  ⟨fun f => (h.hasFlag_eq f).symm, fun label => (h.find?_eq label).symm⟩

theorem trans (h : SameFlags flags flags') (h' : SameFlags flags' flags'') :
    SameFlags flags flags'' :=
  ⟨fun f => (h.hasFlag_eq f).trans (h'.hasFlag_eq f),
    fun label => (h.find?_eq label).trans (h'.find?_eq label)⟩

theorem flagValue?_eq (h : SameFlags flags flags') (label : Label) :
    flagValue? flags label.starts = flagValue? flags' label.starts := by
  rw [flagValue?, flagValue?, h.find?_eq]

/-- **The column of a list of flags** is that of any list with the same words and first values. -/
theorem columnOf_eq (h : SameFlags flags flags') (name type : List Char) :
    columnOf name type flags = columnOf name type flags' := by
  have hprimaryKey : hasFlag flags primaryKeyFlags = hasFlag flags' primaryKeyFlags :=
    h.hasFlag_eq .primaryKey
  have hautoIncrement : hasFlag flags autoIncrementFlags = hasFlag flags' autoIncrementFlags :=
    h.hasFlag_eq .autoIncrement
  have hrequired : hasFlag flags requiredFlags = hasFlag flags' requiredFlags :=
    h.hasFlag_eq .required
  have hunique : hasFlag flags uniqueFlags = hasFlag flags' uniqueFlags := h.hasFlag_eq .unique
  have hreference : flagValue? flags referencePrefixes = flagValue? flags' referencePrefixes :=
    h.flagValue?_eq .reference
  have hdefault : flagValue? flags defaultPrefixes = flagValue? flags' defaultPrefixes :=
    h.flagValue?_eq .defaultValue
  rw [columnOf, columnOf, hprimaryKey, hautoIncrement, hrequired, hunique, hreference, hdefault]

end SameFlags

/-- Another order of the flags, if those with one label stay in their order. -/
theorem sameFlags_of_perm {flags flags' : List (List Char)} (hperm : flags.Perm flags')
    (horder : ∀ label, flags.filter (gives label) = flags'.filter (gives label)) :
    SameFlags (flags.map item) (flags'.map item) where
  hasFlag_eq f := (hperm.map item).any_eq
  find?_eq label := by
    have hfilter (fs : List (List Char)) :
        (fs.map item).filter (startsWithAny · label.starts) = (fs.filter (gives label)).map item :=
      List.filter_map
    rw [← List.head?_filter, ← List.head?_filter, hfilter, hfilter, horder]

/-- A search does not stop at an element that it does not look for, or that stands further to the
front already. -/
theorem find?_append_cons {α : Type} {p : α → Bool} {a : α} {front : List α} (h : p a → a ∈ front)
    (back : List α) : (front ++ a :: back).find? p = (front ++ back).find? p := by
  rw [List.find?_append, List.find?_append]
  cases hfront : front.find? p with
  | some b => rfl
  | none =>
    have ha : ¬ p a := fun hp => List.find?_eq_none.mp hfront a (h hp) hp
    rw [List.find?_cons_of_neg ha]

/-- One more flag, if it stands further to the front already or the parser does not know it. -/
theorem sameFlags_append_cons {flag : List Char} {front : List (List Char)}
    (h : flag ∈ front ∨ ¬ IsKnown flag) (back : List (List Char)) :
    SameFlags ((front ++ flag :: back).map item) ((front ++ back).map item) := by
  rw [List.map_append, List.map_append, List.map_cons]
  constructor
  · intro f
    rw [hasFlag, hasFlag, ← List.isSome_find?, ← List.isSome_find?]
    refine congrArg Option.isSome (find?_append_cons (fun hword => ?_) _)
    rcases h with hmem | hunknown
    · exact List.mem_map_of_mem hmem
    · exact absurd (.inl ⟨f, List.contains_iff_mem.mp hword⟩) hunknown
  · intro label
    refine find?_append_cons (fun hlabel => ?_) _
    rcases h with hmem | hunknown
    · exact List.mem_map_of_mem hmem
    · exact absurd (.inr ⟨label, hlabel⟩) hunknown

/-! ## The text between the parentheses -/

/-- Both texts have the same type and the same flags, and both or neither end the group early. -/
structure SameContent (content content' : List Char) : Prop where
  type_eq : (items content).headD [] = (items content').headD []
  flags : SameFlags (items content).tail (items content').tail
  close_iff : ')' ∈ content ↔ ')' ∈ content'

namespace SameContent

variable {content content' content'' : List Char}

theorem refl (content : List Char) : SameContent content content :=
  ⟨rfl, .refl _, Iff.rfl⟩

theorem symm (h : SameContent content content') : SameContent content' content :=
  ⟨h.type_eq.symm, h.flags.symm, h.close_iff.symm⟩

theorem trans (h : SameContent content content') (h' : SameContent content' content'') :
    SameContent content content'' :=
  ⟨h.type_eq.trans h'.type_eq, h.flags.trans h'.flags, h.close_iff.trans h'.close_iff⟩

/-- Texts with the same items. -/
theorem of_items_eq (h : items content = items content')
    (hclose : ')' ∈ content ↔ ')' ∈ content') : SameContent content content' where
  type_eq := by rw [h]
  flags := by rw [h]; exact .refl _
  close_iff := hclose

/-- Texts with the same type and flags of the same meaning. -/
theorem of_sameFlags {type : List Char} {flags flags' : List (List Char)}
    (hcomma : ∀ token ∈ type :: flags, ',' ∉ token)
    (hcomma' : ∀ token ∈ type :: flags', ',' ∉ token)
    (hflags : SameFlags (flags.map item) (flags'.map item))
    (hclose : (∃ token ∈ flags, ')' ∈ token) ↔ ∃ token ∈ flags', ')' ∈ token) :
    SameContent (joined (type :: flags)) (joined (type :: flags')) := by
  have hitems {fs : List (List Char)} (h : ∀ token ∈ type :: fs, ',' ∉ token) :
      items (joined (type :: fs)) = item type :: fs.map item := by
    rw [items, joined, pieces_intercalate h (List.cons_ne_nil _ _), List.map_cons]
  have hmem (fs : List (List Char)) :
      ')' ∈ joined (type :: fs) ↔ ')' ∈ type ∨ ∃ token ∈ fs, ')' ∈ token := by
    simp [joined, intercalate_cons]
  constructor
  · rw [hitems hcomma, hitems hcomma']
    rfl
  · rw [hitems hcomma, hitems hcomma']
    exact hflags
  · rw [hmem, hmem, hclose]

/-- One more flag, if it stands further to the front already or the parser does not know it. -/
theorem append_cons {type flag : List Char} {front back : List (List Char)}
    (h : flag ∈ front ∨ ¬ IsKnown flag) (hcomma : ∀ token ∈ type :: (front ++ back), ',' ∉ token)
    (hflag : ',' ∉ flag) (hclose : ')' ∈ flag → ∃ token ∈ front, ')' ∈ token) :
    SameContent (joined (type :: (front ++ back))) (joined (type :: (front ++ flag :: back))) := by
  refine .of_sameFlags hcomma ?_ (sameFlags_append_cons h back).symm ?_
  · rw [List.forall_mem_cons, List.forall_mem_append] at hcomma ⊢
    rw [List.forall_mem_cons]
    exact ⟨hcomma.1, hcomma.2.1, hflag, hcomma.2.2⟩
  · simp only [List.mem_append, List.mem_cons, or_and_right, exists_or, exists_eq_left]
    constructor
    · rintro (hfront | hback)
      · exact .inl hfront
      · exact .inr (.inr hback)
    · rintro (hfront | hnew | hback)
      · exact .inl hfront
      · exact .inl (hclose hnew)
      · exact .inr hback

/-- **The column of a group** is that of any text with the same content. -/
theorem column_eq (h : SameContent content content') (name : List Char) :
    Group.column ⟨name, content⟩ = Group.column ⟨name, content'⟩ := by
  show columnOf name ((items content).headD []) (items content).tail =
    columnOf name ((items content').headD []) (items content').tail
  rw [h.type_eq, h.flags.columnOf_eq]

end SameContent

/-- The parser looks at the tokens in lower case. -/
theorem sameContent_of_letterCase {content content' : List Char}
    (h : content.map Char.toLower = content'.map Char.toLower) : SameContent content content' := by
  have hcomma (c : Char) : decide (c.toLower = ',') = decide (c = ',') := by
    rw [decide_eq_decide, toLower_eq_iff (by decide)]
  have hitems (cs : List Char) : items (cs.map Char.toLower) = items cs := by
    rw [items, items, pieces_map_toLower hcomma, List.map_map]
    refine List.map_congr_left fun token _ => ?_
    rw [Function.comp_apply, item, item, trim_map_toLower, lower_map_toLower]
  have hclose (cs : List Char) : ')' ∈ cs.map Char.toLower ↔ ')' ∈ cs := by
    have hiff (c : Char) : c.toLower = ')' ↔ c = ')' := toLower_eq_iff (by decide) c
    simp only [List.mem_map, hiff, exists_eq_right]
  exact .of_items_eq (by rw [← hitems, h, hitems]) (by rw [← hclose, h, hclose])

/-- The parser trims the tokens. -/
theorem sameContent_of_padding {content content' : List Char} (h : Padding ',' content content') :
    SameContent content content' := by
  have hitems (cs : List Char) : items cs = ((pieces (· = ',') cs).map trim).map lower := by
    rw [items, List.map_map]
    rfl
  have hgap {gap : List Char} (hgap : ∀ c ∈ gap, isWhitespace c ∧ c ≠ ',') : ')' ∉ gap := by
    intro hmem
    exact absurd (hgap _ hmem).1 (by decide)
  refine .of_items_eq (by rw [hitems, hitems, h.map_trim_pieces]) ?_
  cases h with
  | front before gap after hspace => simp [hgap hspace]
  | back before gap after hspace => simp [hgap hspace]

/-- **One change of the text between the parentheses** keeps its content. -/
theorem ContentEdit.sameContent {content content' : List Char} (h : ContentEdit content content') :
    SameContent content content' := by
  cases h with
  | permute type flags flags' hcomma hperm horder =>
    refine .of_sameFlags hcomma ?_ (sameFlags_of_perm hperm horder) ?_
    · intro token htoken
      exact hcomma token ((hperm.cons type).mem_iff.mpr htoken)
    · simp only [hperm.mem_iff]
  | repeated type flag front back hcomma hflag =>
    have hmem : flag ∈ type :: (front ++ back) := by simp [hflag]
    exact .append_cons (.inl hflag) hcomma (hcomma flag hmem) fun hclose => ⟨flag, hflag, hclose⟩
  | unknown type flag front back hcomma hflag hunknown =>
    exact .append_cons (.inr hunknown) hcomma hflag.1 fun hclose => absurd hclose hflag.2
  | letterCase h => exact sameContent_of_letterCase h
  | pad h => exact sameContent_of_padding h

theorem sameContent_of_eqvGen {content content' : List Char}
    (h : Relation.EqvGen ContentEdit content content') : SameContent content content' := by
  induction h with
  | rel content content' h => exact h.sameContent
  | refl content => exact .refl content
  | symm content content' _ ih => exact ih.symm
  | trans content content' content'' _ _ ih ih' => exact ih.trans ih'

end SchemaWorkbench.Notation

namespace SchemaWorkbench

open Notation

/-- **A group can be rewritten.** Of a line that describes a column with a type, the text between
the parentheses can be changed any number of times, and the line describes the same column. -/
theorem columnLine?_of_rewriting {line : String} {c : Column} (h : columnLine? line = some c) :
    ∃ o : Group.Occurrence line.toList, o.IsLeftmost ∧
      (o.group.items.headD [] ≠ [] → ∀ content, Relation.EqvGen ContentEdit o.content content →
        columnLine? (String.ofList (o.withContent content)) = some c) := by
  have hline : Notation.columnLine? line.toList = some c := h
  have hdefinition := hline
  rw [columnLine?_eq_of_head (head?_trim_of_columnLine? hline)] at hdefinition
  obtain ⟨g, hg, rfl⟩ := Option.map_eq_some_iff.mp hdefinition
  obtain ⟨o, hleft, rfl⟩ := Group.exists_isLeftmost_of_find? hg
  refine ⟨o, hleft, fun htype content hedits => ?_⟩
  have hsame := sameContent_of_eqvGen hedits
  -- Without a text there would be no type.
  have hne : content ≠ [] := by
    rintro rfl
    exact htype hsame.type_eq
  have hclose : ')' ∉ content := mt hsame.close_iff.mpr o.close_notMem
  have hcolumn := hleft.columnLine?_withContent hline hne hclose
  rw [SchemaWorkbench.columnLine?, String.toList_ofList, hcolumn, ← hsame.column_eq]
  rfl

/-- The flags around a reference change places, the first of them is repeated in capitals, and a
flag that nobody knows and whitespace are put in. -/
theorem column_of_other_content :
    let line := "- n(INT,unique,reference: a,auto)"
    let content := "INT ,why(,auto,reference: a,unique,AUTO".toList
    let c : Column :=
      { name := "n", type := "INT", autoIncrement := true, unique := true, reference := some "a" }
    columnLine? line = some c ∧ ∃ o : Group.Occurrence line.toList, o.IsLeftmost ∧
      o.group.items.headD [] ≠ [] ∧ Relation.EqvGen ContentEdit o.content content ∧
      columnLine? (String.ofList (o.withContent content)) = some c := by
  intro line content c
  have hcolumn : columnLine? line = some c := by decide +kernel
  obtain ⟨o, hleft, hrewritten⟩ := columnLine?_of_rewriting hcolumn
  have hgroup : o.group = ⟨['n'], "INT,unique,reference: a,auto".toList⟩ := by
    have hfind : Group.find? line.toList =
        some ⟨['n'], "INT,unique,reference: a,auto".toList⟩ := by decide +kernel
    exact Option.some.inj (hleft.find?_eq.symm.trans hfind)
  have htype : o.group.items.headD [] ≠ [] := by
    rw [hgroup]
    decide +kernel
  let unique := "unique".toList
  let reference := "reference: a".toList
  let auto := "auto".toList
  have hpermute : ContentEdit (joined ["INT".toList, unique, reference, auto])
      (joined ["INT".toList, auto, reference, unique]) :=
    .permute _ _ _ (by decide +kernel) (by decide +kernel)
      fun label => by cases label <;> decide +kernel
  have hrepeated : ContentEdit (joined ["INT".toList, auto, reference, unique])
      (joined ["INT".toList, auto, reference, unique, auto]) :=
    .repeated _ auto [auto, reference, unique] [] (by decide +kernel) (by decide +kernel)
  have hunknown : ContentEdit (joined ["INT".toList, auto, reference, unique, auto])
      (joined ["INT".toList, "why(".toList, auto, reference, unique, auto]) := by
    refine .unknown _ "why(".toList [] _ (by decide +kernel) (by decide +kernel) ?_
    rintro (⟨f, hf⟩ | ⟨label, hlabel⟩)
    · revert hf
      cases f <;> decide +kernel
    · revert hlabel
      cases label <;> decide +kernel
  have hcapitals : ContentEdit (joined ["INT".toList, "why(".toList, auto, reference, unique, auto])
      "INT,why(,auto,reference: a,unique,AUTO".toList :=
    .letterCase (by decide +kernel)
  have hspace : ContentEdit "INT,why(,auto,reference: a,unique,AUTO".toList content :=
    .pad (.back "INT".toList [' '] ",why(,auto,reference: a,unique,AUTO".toList
      (List.forall_mem_singleton.mpr (by decide)) (.inr (by decide)))
  have hedits : Relation.EqvGen ContentEdit o.content content := by
    rw [show o.content = joined ["INT".toList, unique, reference, auto] from
      congrArg Group.content hgroup]
    exact .trans _ _ _ (.rel _ _ hpermute) (.trans _ _ _ (.rel _ _ hrepeated)
      (.trans _ _ _ (.rel _ _ hunknown) (.trans _ _ _ (.rel _ _ hcapitals) (.rel _ _ hspace))))
  exact ⟨hcolumn, o, hleft, htype, hedits, hrewritten htype content hedits⟩

end SchemaWorkbench
