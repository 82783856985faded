import Mathlib.Data.List.Nodup
import SchemaWorkbench.Proofs.Interchange.Accepted
import SchemaWorkbench.Proofs.Json.Faithful

/-!
# The order of members, and members that are not used

Import looks up members by their names. Where no name is repeated, the order in which the members
of an object are written is of no account, and neither are members that import does not ask for. The
same holds for what is reported of a document that is refused: a relation, of which several members
may be misshapen, is read in an order of its own.

Which names are used depends on where a value stands. Inside a value that is no part of the tables,
columns and relations, such as the value of a flag, import knows no names; there only the order of
members may differ.

## Main definitions

* `Json.DistinctKeys`: no object in the value has two members of one name
* `Import.Place`: where a value stands in a document, with the names that import uses there
* `Import.Alike p v w`: at the place `p`, the values differ in nothing but the order of members and
  members that are not used
* `Import.SameReading p v w`: at the place `p`, import reads the same in both values

## Main results

* `Import.sameReading_arr`, `Import.sameReading_obj`: arrays and objects are read alike when their
  items are, and the members that are used
* `Import.Alike.sameReading`: values that are alike are read alike
* `Document.ofText_eq_of_alike`: texts of documents that are alike are imported alike
-/

namespace SchemaWorkbench

namespace Json

/-- No object in the value has two members of one name. -/
inductive DistinctKeys : Json → Prop
  | null : DistinctKeys .null
  | bool (b : Bool) : DistinctKeys (.bool b)
  | num (n : Number) : DistinctKeys (.num n)
  | str (s : String) : DistinctKeys (.str s)
  | arr {items : List Json} (h : ∀ v ∈ items, DistinctKeys v) : DistinctKeys (.arr items)
  | obj {members : List (String × Json)} (hkeys : (members.map Prod.fst).Nodup)
      (h : ∀ m ∈ members, DistinctKeys m.2) : DistinctKeys (.obj members)

attribute [simp] DistinctKeys.null DistinctKeys.bool DistinctKeys.num DistinctKeys.str

variable {items : List Json} {members : List (String × Json)} {key : String} {v : Json}

@[simp] theorem distinctKeys_arr_iff :
    (Json.arr items).DistinctKeys ↔ ∀ v ∈ items, v.DistinctKeys :=
  ⟨fun | .arr h => h, .arr⟩

@[simp] theorem distinctKeys_obj_iff : (Json.obj members).DistinctKeys ↔
    (members.map Prod.fst).Nodup ∧ ∀ m ∈ members, m.2.DistinctKeys :=
  ⟨fun | .obj hkeys h => ⟨hkeys, h⟩, fun h => .obj h.1 h.2⟩

theorem lookup?_eq_none_iff : lookup? members key = none ↔ key ∉ members.map Prod.fst := by
  rw [lookup?, Option.map_eq_none_iff, List.find?_eq_none, List.mem_map, not_exists]
  simp only [List.mem_reverse, beq_iff_eq, not_and]

/-- Where no name is repeated, any member of the name is the last one. -/
theorem lookup?_eq_some_iff (hkeys : (members.map Prod.fst).Nodup) :
    lookup? members key = some v ↔ (key, v) ∈ members := by
  rw [lookup?, Option.map_eq_some_iff]
  constructor
  · rintro ⟨⟨name, value⟩, hfind, rfl⟩
    have hname : name = key := by simpa using List.find?_some hfind
    rw [← hname]
    exact List.mem_reverse.mp (List.mem_of_find?_eq_some hfind)
  · intro hmem
    have hsome : (members.reverse.find? (·.1 == key)).isSome :=
      List.find?_isSome.mpr ⟨(key, v), List.mem_reverse.mpr hmem, beq_self_eq_true key⟩
    obtain ⟨m, hfind⟩ := Option.isSome_iff_exists.mp hsome
    have hname : m.1 = key := by simpa using List.find?_some hfind
    have hm : m ∈ members := List.mem_reverse.mp (List.mem_of_find?_eq_some hfind)
    have hsame : m = (key, v) := List.inj_on_of_nodup_map hkeys hm hmem hname
    exact ⟨m, hfind, by rw [hsame]⟩

theorem eraseDups_of_nodup {α : Type} [BEq α] [LawfulBEq α] {as : List α} (h : as.Nodup) :
    as.eraseDups = as := by
  induction as with
  | nil => rfl
  | cons a as ih =>
    obtain ⟨ha, h⟩ := List.nodup_cons.mp h
    have hfilter : as.filter (fun b => !b == a) = as :=
      List.filter_eq_self.mpr fun b hb => by
        have hne : b ≠ a := fun heq => ha (heq ▸ hb)
        simpa using hne
    rw [List.eraseDups_cons, hfilter, ih h]

end Json

namespace Import

open Json

/-! ## Places -/

/-- Where a value stands in a document. -/
inductive Place where
  | document
  /-- The value of the member `tables` of a document. -/
  | tables
  | table
  /-- The value of the member `columns` of a table. -/
  | columns
  | column
  /-- The value of the member `relations` of a table. -/
  | relations
  | relation
  /-- Anywhere else. -/
  | inside

namespace Place

/-- The names of members that import uses in an object at the place. Where it knows no names, every
member counts. -/
def Uses : Place → String → Prop
  | document, key => key ∈ ["tables", "dialect"]
  | table, key => key ∈ ["name", "columns", "relations"]
  | column, key => key ∈ ["name", "type", "primaryKey", "autoIncrement", "required", "unique",
      "defaultValue", "reference"]
  | relation, key => key ∈ ["sourceTable", "sourceColumn", "targetTable", "targetColumn",
      "relationType"]
  | tables, _ | columns, _ | relations, _ | inside, _ => True

/-- Where the value of a member stands. -/
def member : Place → String → Place
  | document, "tables" => tables
  | table, "columns" => columns
  | table, "relations" => relations
  | _, _ => inside

/-- Where an item of an array stands. -/
def item : Place → Place
  | tables => table
  | columns => column
  | relations => relation
  | _ => inside

end Place

/-- Two values at a place differ in nothing but the order of members and members that import does
not use: arrays have items that are alike, one by one, and objects have the same names among those
that are used, with values that are alike. (Of objects that repeat a name this says less.) -/
inductive Alike : Place → Json → Json → Prop
  | refl (p : Place) (v : Json) : Alike p v v
  | arr {p : Place} {items items' : List Json} (hlength : items.length = items'.length)
      (hitems : ∀ v w, (v, w) ∈ items.zip items' → Alike p.item v w) :
      Alike p (.arr items) (.arr items')
  | obj {p : Place} {members members' : List (String × Json)}
      (hkeys : ∀ key, p.Uses key → (key ∈ members.map Prod.fst ↔ key ∈ members'.map Prod.fst))
      (hvalues : ∀ key v w, p.Uses key → (key, v) ∈ members → (key, w) ∈ members' →
        Alike (p.member key) v w) :
      Alike p (.obj members) (.obj members')

/-! ## What import reads at a place -/

/-- Import reads the same in two values at a place. -/
def SameReading : Place → Json → Json → Prop
  | .document, v, w => document v = document w
  | .tables, v, w =>
    Option.Rel (List.Forall₂ fun v w => ∀ index, table index v = table index w) v.items? w.items?
  | .table, v, w => ∀ index, table index v = table index w
  | .columns, v, w =>
    Option.Rel (List.Forall₂ fun v w => column? v = column? w) v.items? w.items?
  | .column, v, w => column? v = column? w
  | .relations, v, w =>
    v.found = w.found ∧ asList Relation.ofJson v = asList Relation.ofJson w
  | .relation, v, w => Relation.ofJson v = Relation.ofJson w
  | .inside, v, w => v.found = w.found ∧ Cardinality.ofJson v = Cardinality.ofJson w

/-- Two values that may be missing are missing both, or neither of them is. -/
theorem cases_of_rel {α β : Type} {R : α → β → Prop} {o : Option α} {o' : Option β}
    (h : Option.Rel R o o') :
    (o = none ∧ o' = none) ∨ ∃ a b, o = some a ∧ o' = some b ∧ R a b := by
  cases h with
  | none => exact .inl ⟨rfl, rfl⟩
  | some h => exact .inr ⟨_, _, rfl, rfl, h⟩

theorem rel_forall₂_refl {α : Type} {R : α → α → Prop} (hR : ∀ a, R a a) (o : Option (List α)) :
    Option.Rel (List.Forall₂ R) o o := by
  cases o with
  | none => exact .none
  | some as => exact .some (List.forall₂_same.mpr fun a _ => hR a)

theorem SameReading.refl (p : Place) (v : Json) : SameReading p v v := by
  cases p with
  | document | column | relation => rfl
  | table => exact fun _ => rfl
  | relations | inside => exact ⟨rfl, rfl⟩
  | tables => exact rel_forall₂_refl (fun _ _ => rfl) _
  | columns => exact rel_forall₂_refl (R := fun v w => column? v = column? w) (fun _ => rfl) _

variable {p : Place} {v w : Json}

/-- What import makes of a text or a flag is a matter of what the value is, as messages tell it. -/
theorem eq_of_found (h : v.found = w.found) :
    v.text? = w.text? ∧ isTruthy v = isTruthy w ∧ asText v = asText w := by
  cases v <;> cases w <;> cases h <;> exact ⟨rfl, rfl, rfl⟩

section Arrays

variable {items items' : List Json}

theorem mapM_congr {α β ε : Type} {f : α → Except ε β} {as as' : List α}
    (h : List.Forall₂ (fun a a' => f a = f a') as as') : as.mapM f = as'.mapM f := by
  induction h with
  | nil => rfl
  | cons ha _ ih => rw [List.mapM_cons, List.mapM_cons, ha, ih]

/-- The item at an index is there in both arrays or in none. -/
theorem rel_getElem? {R : Json → Json → Prop} (h : List.Forall₂ R items items') (i : Nat) :
    Option.Rel R items[i]? items'[i]? := by
  induction h generalizing i with
  | nil => exact .none
  | cons hv _ ih =>
    cases i with
    | zero => exact .some hv
    | succ i => exact ih i

theorem itemAt_eq {α : Type} {type : RecordType} {value : Json → Except ShapeError α}
    (h : List.Forall₂ (SameReading .inside) items items') (i : Nat)
    (hvalue : ∀ v w, SameReading .inside v w → value v = value w) :
    itemAt type items i value = itemAt type items' i value := by
  rw [itemAt, itemAt, h.length_eq]
  obtain ⟨hv, hw⟩ | ⟨v, w, hv, hw, hitem⟩ := cases_of_rel (rel_getElem? h i)
  · rw [hv, hw]
  · rw [hv, hw]
    exact hvalue v w hitem

theorem asText_eq_of_sameReading (v w : Json) (h : SameReading .inside v w) :
    asText v = asText w :=
  (eq_of_found h.1).2.2

/-- A relation that is written as an array is read alike when its items are. -/
theorem relation_ofItems_eq (h : List.Forall₂ (SameReading .inside) items items') :
    Relation.ofItems items = Relation.ofItems items' := by
  have htext (i : Nat) : itemAt Relation.recordType items i asText =
      itemAt Relation.recordType items' i asText :=
    itemAt_eq h i asText_eq_of_sameReading
  have hcardinality : itemAt Relation.recordType items 4 Cardinality.ofJson =
      itemAt Relation.recordType items' 4 Cardinality.ofJson :=
    itemAt_eq h 4 fun _ _ h => h.2
  simp only [Relation.ofItems, htext, hcardinality]

/-- **Arrays are read alike** when their items are. -/
theorem sameReading_arr (h : List.Forall₂ (SameReading p.item) items items') :
    SameReading p (.arr items) (.arr items') := by
  cases p with
  | document | column => rfl
  | table => exact fun _ => rfl
  | tables | columns => exact .some h
  | relations => exact ⟨rfl, mapM_congr h⟩
  | relation =>
    show Relation.ofJson (.arr items) = Relation.ofJson (.arr items')
    simp only [Relation.ofJson, asRecord, relation_ofItems_eq h, h.length_eq]
  | inside => exact ⟨rfl, rfl⟩

end Arrays

section Objects

variable {members members' : List (String × Json)} {key : String}

/-- Import reads the same in the members that it uses at the place; one that is missing is missing
in both objects. -/
def SameMembers (p : Place) (members members' : List (String × Json)) : Prop :=
  ∀ key, p.Uses key →
    Option.Rel (SameReading (p.member key)) (lookup? members key) (lookup? members' key)

theorem text?_eq
    (h : Option.Rel (SameReading .inside) (lookup? members key) (lookup? members' key)) :
    text? key (.obj members) = text? key (.obj members') := by
  simp only [text?, member?]
  obtain ⟨hv, hw⟩ | ⟨v, w, hv, hw, h⟩ := cases_of_rel h
  · rw [hv, hw]
  · rw [hv, hw, Option.bind_some, Option.bind_some, (eq_of_found h.1).1]

theorem flag_eq
    (h : Option.Rel (SameReading .inside) (lookup? members key) (lookup? members' key)) :
    flag key (.obj members) = flag key (.obj members') := by
  simp only [flag, member?]
  obtain ⟨hv, hw⟩ | ⟨v, w, hv, hw, h⟩ := cases_of_rel h
  · rw [hv, hw]
  · rw [hv, hw, Option.any_some, Option.any_some, (eq_of_found h.1).2.1]

theorem memberAt?_eq {α : Type} {value : Json → Except ShapeError α}
    (h : Option.Rel (SameReading .inside) (lookup? members key) (lookup? members' key))
    (hvalue : ∀ v w, SameReading .inside v w → value v = value w) :
    memberAt? members key value = memberAt? members' key value := by
  rw [memberAt?, memberAt?]
  obtain ⟨hv, hw⟩ | ⟨v, w, hv, hw, h⟩ := cases_of_rel h
  · rw [hv, hw]
  · rw [hv, hw]
    simp only [hvalue v w h]

theorem list?_rel {R : Json → Json → Prop}
    (h : Option.Rel (fun v w => Option.Rel (List.Forall₂ R) v.items? w.items?)
      (lookup? members key) (lookup? members' key)) :
    Option.Rel (List.Forall₂ R) (list? key (.obj members)) (list? key (.obj members')) := by
  simp only [list?, member?]
  obtain ⟨hv, hw⟩ | ⟨v, w, hv, hw, h⟩ := cases_of_rel h
  · rw [hv, hw]
    exact .none
  · rw [hv, hw]
    exact h

theorem column?_eq (h : SameMembers .column members members') :
    column? (.obj members) = column? (.obj members') := by
  have hrel (key : String) (hkey : Place.column.Uses key) :
      Option.Rel (SameReading .inside) (lookup? members key) (lookup? members' key) := h key hkey
  have hname := text?_eq (hrel "name" (by simp [Place.Uses]))
  have htype := text?_eq (hrel "type" (by simp [Place.Uses]))
  have hprimaryKey := flag_eq (hrel "primaryKey" (by simp [Place.Uses]))
  have hautoIncrement := flag_eq (hrel "autoIncrement" (by simp [Place.Uses]))
  have hrequired := flag_eq (hrel "required" (by simp [Place.Uses]))
  have hunique := flag_eq (hrel "unique" (by simp [Place.Uses]))
  have hdefault := text?_eq (hrel "defaultValue" (by simp [Place.Uses]))
  have hreference := text?_eq (hrel "reference" (by simp [Place.Uses]))
  rw [column?, column?, hname, htype, hprimaryKey, hautoIncrement, hrequired, hunique, hdefault,
    hreference]

/-- The members of a relation are read in an order of their own, whatever the order is in which
they are written, and so the first that is misshapen is the same. -/
theorem relation_ofMembers_eq (h : SameMembers .relation members members') :
    Relation.ofMembers members = Relation.ofMembers members' := by
  have htext (key : String) (hkey : Place.relation.Uses key) :
      memberAt? members key asText = memberAt? members' key asText :=
    memberAt?_eq (h key hkey) asText_eq_of_sameReading
  have hcardinality : memberAt? members "relationType" Cardinality.ofJson =
      memberAt? members' "relationType" Cardinality.ofJson :=
    memberAt?_eq (h "relationType" (by simp [Place.Uses])) fun _ _ h => h.2
  rw [Relation.ofMembers, Relation.ofMembers, hcardinality,
    htext "sourceColumn" (by simp [Place.Uses]),
    htext "sourceTable" (by simp [Place.Uses]),
    htext "targetColumn" (by simp [Place.Uses]),
    htext "targetTable" (by simp [Place.Uses])]

theorem columns_eq {name : String} {index : Nat} {items items' : List Json}
    (h : List.Forall₂ (fun v w => column? v = column? w) items items') :
    columns name index items = columns name index items' := by
  induction h generalizing index with
  | nil => rfl
  | cons hv _ ih => rw [columns, columns, hv, ih]

theorem relations_eq
    (h : Option.Rel (SameReading .relations) (lookup? members "relations")
      (lookup? members' "relations")) :
    relations (.obj members) = relations (.obj members') := by
  simp only [relations, member?]
  obtain ⟨hv, hw⟩ | ⟨v, w, hv, hw, hfound, hlist⟩ := cases_of_rel h
  · rw [hv, hw]
  · rw [hv, hw]
    -- Both are null, or neither of them is.
    cases v <;> cases w <;> cases hfound <;> simp only [hlist]

theorem table_eq (h : SameMembers .table members members') (index : Nat) :
    table index (.obj members) = table index (.obj members') := by
  have hname := text?_eq (h "name" (by simp [Place.Uses]))
  have hcolumns := list?_rel (h "columns" (by simp [Place.Uses]))
  have hrelations := relations_eq (h "relations" (by simp [Place.Uses]))
  rw [table, table, hname, hrelations]
  obtain ⟨hv, hw⟩ | ⟨items, items', hv, hw, hitems⟩ := cases_of_rel hcolumns
  · rw [hv, hw]
  · rw [hv, hw]
    -- Columns are only read in a table that has a name.
    cases text? "name" (.obj members') with
    | none => rfl
    | some name => simp only [columns_eq hitems]

theorem tables_eq {index : Nat} {items items' : List Json}
    (h : List.Forall₂ (fun v w => ∀ index, table index v = table index w) items items') :
    tables index items = tables index items' := by
  induction h generalizing index with
  | nil => rfl
  | cons hv _ ih => rw [tables, tables, hv, ih]

theorem document_eq (h : SameMembers .document members members') :
    document (.obj members) = document (.obj members') := by
  have hdialect := text?_eq (h "dialect" (by simp [Place.Uses]))
  have htables := list?_rel (h "tables" (by simp [Place.Uses]))
  rw [document, document, hdialect]
  obtain ⟨hv, hw⟩ | ⟨items, items', hv, hw, hitems⟩ := cases_of_rel htables
  · rw [hv, hw]
  · rw [hv, hw]
    cases hitems with
    | nil => rfl
    | cons hitem hitems => simp only [tables_eq (.cons hitem hitems)]

/-- A cardinality that is written as an object is told by its only name and the value of it. -/
theorem cardinality_eq (hkeys : (members.map Prod.fst).Nodup)
    (hkeys' : (members'.map Prod.fst).Nodup) (h : SameMembers .inside members members') :
    Cardinality.ofJson (.obj members) = Cardinality.ofJson (.obj members') := by
  have hmem (key : String) : key ∈ members.map Prod.fst ↔ key ∈ members'.map Prod.fst := by
    rw [← not_iff_not, ← lookup?_eq_none_iff, ← lookup?_eq_none_iff]
    obtain ⟨hv, hw⟩ | ⟨v, w, hv, hw, -⟩ := cases_of_rel (h key trivial)
    · rw [hv, hw]
    · simp [hv, hw]
  have hperm : (members.map Prod.fst).Perm (members'.map Prod.fst) :=
    (List.perm_ext_iff_of_nodup hkeys hkeys').mpr hmem
  simp only [Cardinality.ofJson, asChoice, eraseDups_of_nodup hkeys, eraseDups_of_nodup hkeys']
  -- There are as many names in both objects, and only a single name is a choice.
  generalize hnames : members.map Prod.fst = names at hperm
  generalize hnames' : members'.map Prod.fst = names' at hperm
  match names, names', hperm.length_eq with
  | [], [], _ => rfl
  | [name], [name'], _ =>
    cases List.singleton_perm_singleton.mp hperm
    obtain ⟨hv, hw⟩ | ⟨v, w, hv, hw, hvalue⟩ := cases_of_rel (h name trivial)
    · simp only [hv, hw]
    · simp only [hv, hw]
      cases v <;> cases w <;> cases hvalue.1 <;> rfl
  | _ :: _ :: _, _ :: _ :: _, _ => rfl

/-- **Objects are read alike** when the members are that import uses. -/
theorem sameReading_obj (hkeys : (members.map Prod.fst).Nodup)
    (hkeys' : (members'.map Prod.fst).Nodup) (h : SameMembers p members members') :
    SameReading p (.obj members) (.obj members') := by
  cases p with
  | document => exact document_eq h
  | table => exact table_eq h
  | column => exact column?_eq h
  | relation => exact relation_ofMembers_eq h
  | tables | columns => exact .none
  | relations => exact ⟨rfl, rfl⟩
  | inside => exact ⟨rfl, cardinality_eq hkeys hkeys' h⟩

end Objects

/-! ## Values that are alike -/

/-- Objects without repeated names are alike when they have, in any order, the same members with
values that are alike, and apart from them only members that are not used. -/
theorem Alike.of_perm {members members' common common' extra extra' : List (String × Json)}
    (hkeys' : (members'.map Prod.fst).Nodup) (h : members.Perm (common ++ extra))
    (h' : members'.Perm (common' ++ extra')) (hextra : ∀ m ∈ extra ++ extra', ¬ p.Uses m.1)
    (halike : List.Forall₂ (fun m m' => m.1 = m'.1 ∧ Alike (p.member m.1) m.2 m'.2)
      common common') :
    Alike p (.obj members) (.obj members') := by
  rw [List.forall_mem_append] at hextra
  -- A member that is used is one of the common ones, which have their partners in the other object.
  have hcommon {m : String × Json} (huses : p.Uses m.1) : m ∈ members ↔ m ∈ common := by
    rw [h.mem_iff, List.mem_append]
    exact or_iff_left fun hm => hextra.1 m hm huses
  have hcommon' {m : String × Json} (huses : p.Uses m.1) : m ∈ members' ↔ m ∈ common' := by
    rw [h'.mem_iff, List.mem_append]
    exact or_iff_left fun hm => hextra.2 m hm huses
  obtain ⟨hpartner, hpartner'⟩ := exists_mem_of_forall₂ halike
  refine .obj (fun key huses => ?_) fun key v w huses hv hw => ?_
  · rw [List.mem_map, List.mem_map]
    constructor
    · rintro ⟨m, hm, rfl⟩
      obtain ⟨m', hm', hname, -⟩ := hpartner m ((hcommon huses).mp hm)
      exact ⟨m', (hcommon' (hname ▸ huses)).mpr hm', hname.symm⟩
    · rintro ⟨m', hm', rfl⟩
      obtain ⟨m, hm, hname, -⟩ := hpartner' m' ((hcommon' huses).mp hm')
      exact ⟨m, (hcommon (hname ▸ huses)).mpr hm, hname⟩
  · obtain ⟨⟨name, w'⟩, hw', hname, hvw⟩ := hpartner (key, v) ((hcommon huses).mp hv)
    dsimp only at hname hvw
    subst hname
    -- The partner is the only member of its name.
    cases List.inj_on_of_nodup_map hkeys' hw ((hcommon' huses).mpr hw') rfl
    exact hvw

/-- **Values that are alike are read alike**, if no name is repeated in them. -/
theorem Alike.sameReading (h : Alike p v w) (hv : v.DistinctKeys) (hw : w.DistinctKeys) :
    SameReading p v w := by
  induction h with
  | refl p v => exact .refl p v
  | @arr p items items' hlength hitems ih =>
    rw [distinctKeys_arr_iff] at hv hw
    refine sameReading_arr (List.forall₂_iff_zip.mpr ⟨hlength, fun {v w} hmem => ?_⟩)
    obtain ⟨hmemv, hmemw⟩ := List.of_mem_zip hmem
    exact ih v w hmem (hv v hmemv) (hw w hmemw)
  | @obj p members members' hkeys hvalues ih =>
    obtain ⟨hnodup, hv⟩ := distinctKeys_obj_iff.mp hv
    obtain ⟨hnodup', hw⟩ := distinctKeys_obj_iff.mp hw
    refine sameReading_obj hnodup hnodup' fun key huses => ?_
    -- The name is missing in both objects, or it has one value in each of them.
    cases hlookup : lookup? members key with
    | none =>
      have hmissing := mt (hkeys key huses).mpr (lookup?_eq_none_iff.mp hlookup)
      rw [lookup?_eq_none_iff.mpr hmissing]
      exact .none
    | some v =>
      have hmem := (lookup?_eq_some_iff hnodup).mp hlookup
      have hkey := (hkeys key huses).mp (List.mem_map_of_mem (f := Prod.fst) hmem)
      obtain ⟨⟨_, w⟩, hmem', rfl⟩ := List.mem_map.mp hkey
      rw [(lookup?_eq_some_iff hnodup').mpr hmem']
      exact .some (ih _ v w huses hmem hmem' (hv _ hmem) (hw _ hmem'))

end Import

/-- **The order of members and members that are not used do not matter.** Take two texts that read
as documents without repeated names, and that differ in nothing but the order of the members of
objects and in members of the document, of its tables, columns and relations that import does not
use. Then the same document is imported from both, or both are refused for the same reason, with
the same indices, names and wording. -/
theorem Document.ofText_eq_of_alike {s t : String} {v w : Json} (hs : Json.read s = .ok v)
    (ht : Json.read t = .ok w) (hv : v.DistinctKeys) (hw : w.DistinctKeys)
    (h : Import.Alike .document v w) : ofText s = ofText t := by
  have hdocument : Import.document v = Import.document w := h.sameReading hv hw
  rw [ofText, ofText, hs, ht]
  exact hdocument

/-- At every level the members stand in the reverse order, before them one that nobody asks for. The
same column is imported from both documents, and of the two misshapen members of a relation the same
one is reported. -/
theorem Document.same_misshapen_relation :
    let link := [("sourceTable", .bool true), ("relationType", .str "all"), ("sourceColumn", .null)]
    let column := [("name", .str "x"), ("type", .str "INT"), ("required", .bool true)]
    let document (f : List (String × Json) → List (String × Json)) (links : List Json) : Json :=
      .obj (f [("tables", .arr [.obj (f [("name", .str "a"), ("columns", .arr [.obj (f column)]),
        ("relations", .arr links)])])])
    let reversed (members : List (String × Json)) :=
      (members ++ [("note", Json.bool false)]).reverse
    let imported := (document id [], document reversed [])
    let refused := (document id [.obj link], document reversed [.obj (reversed link)])
    (∀ pair ∈ [imported, refused], pair.1.DistinctKeys ∧ pair.2.DistinctKeys ∧
        Import.Alike .document pair.1 pair.2 ∧ ofText pair.1.compact = ofText pair.2.compact) ∧
      ofText imported.1.compact = .ok
        { tables := [{ name := "a", columns := [{ name := "x", type := "INT", required := true }] }]
          dialect := none } ∧
      ofText refused.1.compact = .error (.json (.misshapen
        (.unknownVariant "all" ["oneToOne", "oneToMany", "manyToMany"]))) := by
  intro link column document reversed imported refused
  have halike {p : Import.Place} {members members' : List (String × Json)}
      (hnote : ¬ p.Uses "note") (hkeys : ((reversed members').map Prod.fst).Nodup)
      (h : List.Forall₂ (fun m m' => m.1 = m'.1 ∧ Import.Alike (p.member m.1) m.2 m'.2)
        members members') : Import.Alike p (.obj members) (.obj (reversed members')) :=
    have hperm : members.Perm (members ++ []) := by simp
    .of_perm hkeys hperm (List.reverse_perm _) (by simpa using hnote) h
  -- The documents of each pair are alike, which is shown from the inside out.
  have hlink : Import.Alike .relation (.obj link) (.obj (reversed link)) := by
    refine halike (by simp [Import.Place.Uses]) (by decide) ?_
    exact List.forall₂_same.mpr fun m _ => ⟨rfl, .refl _ _⟩
  have hcolumn : Import.Alike .column (.obj column) (.obj (reversed column)) := by
    refine halike (by simp [Import.Place.Uses]) (by decide) ?_
    exact List.forall₂_same.mpr fun m _ => ⟨rfl, .refl _ _⟩
  have hdocument {links links' : List Json}
      (hlinks : Import.Alike .relations (.arr links) (.arr links')) :
      Import.Alike .document (document id links) (document reversed links') := by
    refine halike (by simp [Import.Place.Uses]) (by simp [reversed]) (.cons ⟨rfl, .arr rfl ?_⟩ .nil)
    simp only [List.zip_cons_cons, List.zip_nil_left, List.mem_singleton]
    rintro _ _ ⟨⟩
    refine halike (by simp [Import.Place.item, Import.Place.member, Import.Place.Uses])
      (by simp [reversed]) ?_
    refine .cons ⟨rfl, .refl _ _⟩ (.cons ⟨rfl, .arr rfl ?_⟩ (.cons ⟨rfl, hlinks⟩ .nil))
    simpa [Import.Place.member, Import.Place.item] using hcolumn
  -- All four texts read back as the documents that they are written from.
  have hplain {f : List (String × Json) → List (String × Json)} {links : List Json}
      (hf : ∀ {n members}, (∀ m ∈ members, Json.Plain n m.2) → ∀ m ∈ f members, Json.Plain n m.2)
      (hlinks : ∀ l ∈ links, Json.Plain 123 l) : Json.Plain 127 (document f links) := by
    have hcolumn : Json.Plain 123 (.obj (f column)) :=
      .obj (hf (by simp [column, Json.Plain.bool, Json.Plain.str]))
    have htable : Json.Plain 125 (.obj (f [("name", .str "a"), ("columns", .arr [.obj (f column)]),
        ("relations", .arr links)])) :=
      .obj (hf (by simpa [Json.Plain.str] using ⟨.arr (by simpa), .arr hlinks⟩))
    exact .obj (hf (by simpa using .arr (by simpa)))
  have hread {links : List Json} (hlinks : ∀ l ∈ links, Json.Plain 123 l) :
      Json.read (document id links).compact = .ok (document id links) :=
    Json.read_compact (hplain (f := id) id hlinks)
  have hread' {links : List Json} (hlinks : ∀ l ∈ links, Json.Plain 123 l) :
      Json.read (document reversed links).compact = .ok (document reversed links) := by
    refine Json.read_compact (hplain (fun h => ?_) hlinks)
    simp only [reversed, List.mem_reverse, List.forall_mem_append]
    exact ⟨h, List.forall_mem_singleton.mpr (.bool false)⟩
  have hone : ∀ l ∈ [Json.obj link], Json.Plain 123 l := by
    refine List.forall_mem_singleton.mpr (.obj ?_)
    simp [link, Json.Plain.bool, Json.Plain.str, Json.Plain.null]
  have hone' : ∀ l ∈ [Json.obj (reversed link)], Json.Plain 123 l := by
    refine List.forall_mem_singleton.mpr (.obj ?_)
    simp [reversed, link, Json.Plain.bool, Json.Plain.str, Json.Plain.null]
  have himported : Import.Alike .document imported.1 imported.2 := hdocument (.refl _ _)
  have hrefused : Import.Alike .document refused.1 refused.2 := by
    refine hdocument (.arr rfl ?_)
    simpa [Import.Place.item] using hlink
  have hv : imported.1.DistinctKeys := by simp [imported, document, column]
  have hv' : imported.2.DistinctKeys := by simp [imported, reversed, document, column]
  have hw : refused.1.DistinctKeys := by simp [refused, document, column, link]
  have hw' : refused.2.DistinctKeys := by simp [refused, reversed, document, column, link]
  refine ⟨List.forall_mem_cons.mpr ⟨⟨hv, hv', himported, ?_⟩,
    List.forall_mem_singleton.mpr ⟨hw, hw', hrefused, ?_⟩⟩, ?_, ?_⟩
  · exact ofText_eq_of_alike (hread (by simp)) (hread' (by simp)) hv hv' himported
  · exact ofText_eq_of_alike (hread hone) (hread' hone') hw hw' hrefused
  · rw [ofText, hread (by simp)]
    rfl
  · rw [ofText, hread hone]
    rfl

end SchemaWorkbench
