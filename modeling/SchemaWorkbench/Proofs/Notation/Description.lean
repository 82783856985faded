import SchemaWorkbench.Proofs.Notation.Items
import SchemaWorkbench.Proofs.Notation.Segments

/-!
# Tables written down in the notation

A description of a table says what is written and what is meant. The words of the flags can be taken
from either language, and the flags, the reference and the default value of a column can stand in
any order after its type. What is read of such a text does not depend on these choices, and nothing
else is read: no part of a description is taken for another, although the text of a value may be a
word of a flag, a name may be empty or look like the start of a header, and names and values may
hold the characters that other parts are recognised by.

The descriptions carry what this rests on. An order of items is an order of the items that were
chosen, and a value is trimmed, in lower case and free of commas, closing parentheses and line
feeds.

## Main definitions

* `Flag.word`, `Label.word`: the words that are written for a flag and before a value
* `ColumnDescription`, `TableDescription`: what is written down
* `ColumnDescription.column`, `TableDescription.table`: what is meant
* `ColumnDescription.line`, `TableDescription.written`: the lines of a column and of a table

## Main results

* `ColumnDescription.columnLine?_line`: the column of a line
* `segments_written`: the tables of the lines
* `parse_written`: the tables of the text
-/

namespace SchemaWorkbench.Notation

open Text

/-! ## Words -/

/-- The languages of the notation. -/
inductive Language where
  | french
  | english
  deriving DecidableEq, Repr

/-- What a column can be marked as. -/
inductive Flag where
  | primaryKey
  | autoIncrement
  | required
  | unique
  deriving DecidableEq, Repr

/-- What a value can be given for. -/
inductive Label where
  | reference
  | defaultValue
  deriving DecidableEq, Repr

namespace Flag

def all : List Flag := [.primaryKey, .autoIncrement, .required, .unique]

/-- The word for a flag; for a column without repeated values there is only one. -/
def word : Flag → Language → String
  | .primaryKey, .french => "clé primaire"
  | .primaryKey, .english => "primary key"
  | .autoIncrement, .french => "auto"
  | .autoIncrement, .english => "auto_increment"
  | .required, .french => "requis"
  | .required, .english => "required"
  | .unique, _ => "unique"

/-- The words that the parser takes for the flag. -/
def words : Flag → List String
  | .primaryKey => primaryKeyFlags
  | .autoIncrement => autoIncrementFlags
  | .required => requiredFlags
  | .unique => uniqueFlags

theorem mem_all (f : Flag) : f ∈ all := by
  cases f <;> decide

theorem isValue_word (f : Flag) (language : Language) : IsValue (f.word language).toList := by
  cases f <;> cases language <;> decide +kernel

/-- No word stands for two flags. -/
theorem word_mem_words_iff {f g : Flag} {language : Language} :
    g.word language ∈ f.words ↔ g = f := by
  cases f <;> cases g <;> cases language <;> decide

theorem colon_notMem_of_mem_words {f : Flag} : ∀ w ∈ f.words, ':' ∉ w.toList := by
  cases f <;> decide

end Flag

namespace Label

def all : List Label := [.reference, .defaultValue]

/-- The word before a value. -/
def word : Label → String
  | .reference => "reference"
  | .defaultValue => "default"

/-- What the parser takes for the start of an item with a value. -/
def starts : Label → List String
  | .reference => referencePrefixes
  | .defaultValue => defaultPrefixes

theorem mem_all (l : Label) : l ∈ all := by
  cases l <;> decide

theorem isValue_word (l : Label) : IsValue l.word.toList := by
  cases l <;> decide +kernel

theorem colon_notMem_word (l : Label) : ':' ∉ l.word.toList := by
  cases l <;> decide

end Label

/-! ## Items -/

/-- The text of a reference or of a default value. -/
abbrev Value := { s : String // IsValue s.toList }

/-- What can stand after the type of a column. -/
inductive Item where
  | flag (f : Flag) (language : Language)
  | value (label : Label) (v : Value)
  deriving DecidableEq, Repr

namespace Item

def text : Item → String
  | .flag f language => f.word language
  | .value label v => label.word ++ ": " ++ v.1

theorem text_value_toList (label : Label) (v : Value) :
    (Item.value label v).text.toList = label.word.toList ++ [':', ' '] ++ v.1.toList := by
  rw [text, String.toList_append, String.toList_append]
  rfl

theorem isValue_text (i : Item) : IsValue i.text.toList := by
  cases i with
  | flag f language => exact f.isValue_word language
  | value label v =>
    rw [text_value_toList]
    exact label.isValue_word.append v.2

/-- Only a flag is read as a flag. -/
theorem text_mem_words_iff {i : Item} {f : Flag} :
    i.text ∈ f.words ↔ ∃ language, i = .flag f language := by
  cases i with
  | flag g language =>
    rw [text, Flag.word_mem_words_iff]
    simp
  | value label v =>
    -- Whatever the value is, a colon stands before it, and no word holds one.
    have hcolon : ':' ∈ (Item.value label v).text.toList := by
      rw [text_value_toList]
      simp
    refine iff_of_false ?_ (by simp)
    intro hmem
    exact Flag.colon_notMem_of_mem_words _ hmem hcolon

/-- Only a value with the label is read as a value after it. -/
theorem startsWithAny_iff {i : Item} {label : Label} :
    startsWithAny i.text.toList label.starts ↔ ∃ v, i = .value label v := by
  cases i with
  | flag f language =>
    have hno : startsWithAny (f.word language).toList label.starts = false := by
      cases label <;> cases f <;> cases language <;> decide
    simp [text, hno]
  | value label' v =>
    rw [text_value_toList]
    -- The labels differ before the value begins, so that evaluation decides the comparison.
    have hstarts : startsWithAny (label'.word.toList ++ [':', ' '] ++ v.1.toList) label.starts =
        decide (label' = label) := by
      cases label <;> cases label' <;> rfl
    rw [hstarts]
    simp

end Item

/-- A search that only one element can answer. -/
theorem find?_eq_of_mem_iff {α : Type} {l : List α} {p : α → Bool} {o : Option α}
    (h : ∀ a, a ∈ l ∧ p a ↔ a ∈ o) : l.find? p = o := by
  have hsound : ∀ a ∈ l.find? p, a ∈ o := by
    intro a ha
    exact (h a).mp ⟨List.mem_of_find?_eq_some ha, List.find?_some ha⟩
  cases hfind : l.find? p with
  | some a => exact (hsound a hfind).symm
  | none =>
    symm
    rw [Option.eq_none_iff_forall_not_mem]
    intro a ha
    obtain ⟨hmem, hp⟩ := (h a).mpr ha
    exact List.find?_eq_none.mp hfind a hmem hp

/-- The items for the flags that were chosen and the values that were given. -/
def chosenItems (flags : Flag → Option Language) (values : Label → Option Value) : List Item :=
  Flag.all.filterMap (fun f => (flags f).map (Item.flag f)) ++
    Label.all.filterMap fun l => (values l).map (Item.value l)

section

variable {flags : Flag → Option Language} {values : Label → Option Value}

theorem flag_mem_chosenItems_iff {f : Flag} {language : Language} :
    Item.flag f language ∈ chosenItems flags values ↔ flags f = some language := by
  simp [chosenItems, Flag.mem_all, Label.mem_all]

theorem value_mem_chosenItems_iff {label : Label} {v : Value} :
    Item.value label v ∈ chosenItems flags values ↔ values label = some v := by
  simp [chosenItems, Flag.mem_all, Label.mem_all]

end

/-! ## Columns -/

/-- What is written down about a column. -/
structure ColumnDescription where
  name : String
  type : String
  /-- The chosen flags, each with the language of its word. -/
  flags : Flag → Option Language
  values : Label → Option Value
  /-- The chosen items in the order in which they are written. -/
  order : List Item
  name_ne_empty : name ≠ ""
  isWordChar_name : ∀ c ∈ name.toList, isWordChar c
  isItem_type : IsItem type.toList
  order_perm : order.Perm (chosenItems flags values)

namespace ColumnDescription

variable (d : ColumnDescription)

/-- The column that is meant. -/
def column : Column where
  name := d.name
  type := resolve (lowercase d.type)
  primaryKey := (d.flags .primaryKey).isSome
  autoIncrement := (d.flags .autoIncrement).isSome
  required := (d.flags .required).isSome
  unique := (d.flags .unique).isSome
  defaultValue := (d.values .defaultValue).map fun v =>
    if v.1 ∈ ["maintenant", "aujourd'hui", "now", "today"] then "CURRENT_TIMESTAMP" else v.1
  reference := (d.values .reference).map (·.1)

/-- The text between the parentheses. -/
def content : String :=
  ", ".intercalate (d.type :: d.order.map Item.text)

/-- The line of the column. -/
def line : String :=
  "- " ++ d.name ++ "(" ++ d.content ++ ")"

def flagTexts : List (List Char) :=
  d.order.map (·.text.toList)

theorem content_toList :
    d.content.toList = [',', ' '].intercalate (d.type.toList :: d.flagTexts) := by
  rw [content, String.toList_intercalate, List.map_cons, List.map_map]
  rfl

theorem line_toList :
    d.line.toList = ['-'] ++ (' ' :: (d.name.toList ++ '(' :: d.content.toList)) ++ [')'] := by
  simp [line]

/-- Neither the type nor an item holds what ends a group or a line. -/
theorem notMem_content {c : Char} (hc : c = ')' ∨ c = '\n') : c ∉ d.content.toList := by
  rw [content_toList]
  refine not_mem_intercalate ?_ ?_
  · rcases hc with rfl | rfl <;> decide
  · intro part hpart
    have hitem : IsItem part := by
      rcases List.mem_cons.mp hpart with rfl | hpart
      · exact d.isItem_type
      · obtain ⟨i, -, rfl⟩ := List.mem_map.mp hpart
        exact i.isValue_text.toIsItem
    rcases hc with rfl | rfl
    · exact hitem.parenthesis
    · exact hitem.feed

theorem hasFlag_flagTexts (f : Flag) : hasFlag d.flagTexts f.words = (d.flags f).isSome := by
  rw [Bool.eq_iff_iff, hasFlag, flagTexts, List.any_map, List.any_eq_true, Option.isSome_iff_exists]
  -- The order does not matter: a flag is looked for among all items.
  simp only [Function.comp_apply, String.ofList_toList, List.contains_iff_mem,
    Item.text_mem_words_iff, d.order_perm.mem_iff]
  constructor
  · rintro ⟨i, hi, language, rfl⟩
    exact ⟨language, flag_mem_chosenItems_iff.mp hi⟩
  · rintro ⟨language, hf⟩
    exact ⟨_, flag_mem_chosenItems_iff.mpr hf, language, rfl⟩

theorem flagValue?_flagTexts (label : Label) :
    flagValue? d.flagTexts label.starts = (d.values label).map (·.1) := by
  -- Of the items only the one with this label starts as it does, wherever it stands.
  have hmem (i : Item) :
      i ∈ d.order ∧ startsWithAny i.text.toList label.starts ↔
        i ∈ (d.values label).map (Item.value label) := by
    rw [Item.startsWithAny_iff, d.order_perm.mem_iff, Option.mem_def, Option.map_eq_some_iff]
    constructor
    · rintro ⟨hi, v, rfl⟩
      exact ⟨v, value_mem_chosenItems_iff.mp hi, rfl⟩
    · rintro ⟨v, hv, rfl⟩
      exact ⟨value_mem_chosenItems_iff.mpr hv, v, rfl⟩
  have hfind : d.flagTexts.find? (startsWithAny · label.starts) =
      ((d.values label).map (Item.value label)).map (·.text.toList) := by
    rw [flagTexts, List.find?_map]
    exact congrArg (Option.map _) (find?_eq_of_mem_iff hmem)
  cases hvalue : d.values label with
  | none =>
    rw [hvalue] at hfind
    exact flagValue?_of_find?_none hfind
  | some v =>
    rw [hvalue, Option.map_some, Option.map_some, Item.text_value_toList] at hfind
    rw [flagValue?_of_find? label.colon_notMem_word v.2.toIsItem hfind, String.ofList_toList]
    rfl

/-- The group of the line describes the column that is meant. -/
theorem column_group : Group.column ⟨d.name.toList, d.content.toList⟩ = d.column := by
  have hitems : Group.items ⟨d.name.toList, d.content.toList⟩ =
      lower d.type.toList :: d.flagTexts := by
    rw [content_toList]
    refine Group.items_intercalate d.isItem_type ?_ _
    intro v hv
    obtain ⟨i, -, rfl⟩ := List.mem_map.mp hv
    exact i.isValue_text
  have hprimaryKey : hasFlag d.flagTexts primaryKeyFlags = d.column.primaryKey :=
    d.hasFlag_flagTexts .primaryKey
  have hautoIncrement : hasFlag d.flagTexts autoIncrementFlags = d.column.autoIncrement :=
    d.hasFlag_flagTexts .autoIncrement
  have hrequired : hasFlag d.flagTexts requiredFlags = d.column.required :=
    d.hasFlag_flagTexts .required
  have hunique : hasFlag d.flagTexts uniqueFlags = d.column.unique :=
    d.hasFlag_flagTexts .unique
  have hreference : flagValue? d.flagTexts referencePrefixes = d.column.reference :=
    d.flagValue?_flagTexts .reference
  have hdefault : (flagValue? d.flagTexts defaultPrefixes).map normalizeDefault =
      d.column.defaultValue := by
    have hvalue : flagValue? d.flagTexts defaultPrefixes =
        (d.values .defaultValue).map (·.1) := d.flagValue?_flagTexts .defaultValue
    rw [hvalue, Option.map_map]
    refine congrArg (Option.map · _) (funext fun v => ?_)
    simp [normalizeDefault, nowWords, currentTimestamp]
  rw [Group.column, hitems, List.headD_cons, List.tail_cons, columnOf, hprimaryKey, hautoIncrement,
    hrequired, hunique, hreference, hdefault, String.ofList_toList]
  rfl

/-- The line starts with a dash and ends with a parenthesis. -/
theorem trim_line : trim d.line.toList = d.line.toList := by
  rw [line_toList]
  exact trim_append_append (by decide) (by decide) (List.cons_ne_nil _ _) (List.cons_ne_nil _ _) _

theorem header?_line : header? d.line.toList = none := by
  have htrim := d.trim_line
  rw [line_toList, List.append_assoc, List.singleton_append] at htrim ⊢
  exact header?_of_dash htrim

/-- **The column of a line** is the one that is meant. -/
theorem columnLine?_line : columnLine? d.line.toList = some d.column := by
  have hname : d.name.toList ≠ [] := by
    intro h
    exact d.name_ne_empty (String.toList_inj.mp h)
  have hcontent : d.content.toList ≠ [] := by
    rw [content_toList, intercalate_cons]
    exact List.append_ne_nil_of_left_ne_nil d.isItem_type.ne_nil _
  -- The definition after the dash is the group, between a name and a parenthesis.
  have hdefinition : trim (' ' :: (d.name.toList ++ '(' :: (d.content.toList ++ [')']))) =
      d.name.toList ++ '(' :: (d.content.toList ++ [')']) := by
    rw [trim_cons_of_isWhitespace (by decide)]
    simpa using trim_append_append (trim_of_isWordChar d.isWordChar_name)
      (show trim [')'] = [')'] by decide) hname (List.cons_ne_nil _ _) ('(' :: d.content.toList)
  have hgroup := Group.find?_append hname d.isWordChar_name hcontent
    (d.notMem_content (.inl rfl)) []
  have hline : trim d.line.toList =
      '-' :: ' ' :: (d.name.toList ++ '(' :: (d.content.toList ++ [')'])) := by
    rw [trim_line, line_toList]
    simp
  rw [columnLine?, hline]
  show columnDefinition? (trim (' ' :: _)) = _
  rw [hdefinition, columnDefinition?, hgroup, Option.map_some, column_group]

end ColumnDescription

/-! ## Tables -/

/-- What is written down about a table. -/
structure TableDescription where
  name : String
  columns : List ColumnDescription
  trim_name : trim name.toList = name.toList
  feed_notMem_name : '\n' ∉ name.toList

namespace TableDescription

variable (d : TableDescription)

/-- The table that is meant. -/
def table : Table where
  name := d.name
  columns := d.columns.map ColumnDescription.column
  relations := []

def header : String :=
  "table " ++ d.name ++ ":"

/-- The lines of the table: the header and a line for each column. -/
def written : List String :=
  d.header :: d.columns.map ColumnDescription.line

theorem header_toList : d.header.toList = headerWord ++ [' '] ++ d.name.toList ++ [':'] := by
  simp [header, headerWord]

theorem header?_header : header? d.header.toList = some d.name.toList := by
  rw [header_toList]
  exact header?_append d.trim_name

/-- No line holds a line feed, and the last character of each is none that ends a line. -/
theorem lines_written {l : String} (hl : l ∈ d.written) :
    '\n' ∉ l.toList ∧ '\r' ∉ l.toList.getLast? ∧ l.toList ≠ [] := by
  rcases List.mem_cons.mp hl with rfl | hl
  · rw [header_toList]
    refine ⟨?_, by rw [List.getLast?_concat]; simp, by simp⟩
    simp [headerWord, d.feed_notMem_name]
  · obtain ⟨c, -, rfl⟩ := List.mem_map.mp hl
    rw [c.line_toList]
    refine ⟨?_, by rw [List.getLast?_concat]; simp, by simp⟩
    have hname : '\n' ∉ c.name.toList := by
      intro h
      exact absurd (c.isWordChar_name _ h) (by decide)
    simp [hname, c.notMem_content (.inr rfl)]

end TableDescription

/-- The lines of columns hold no header: they belong to the table before them. -/
theorem leadingColumns_columns_append (columns : List ColumnDescription) (rest : List (List Char)) :
    leadingColumns (columns.map (·.line.toList) ++ rest) =
      columns.map ColumnDescription.column ++ leadingColumns rest := by
  induction columns with
  | nil => rfl
  | cons c columns ih =>
    rw [List.map_cons, List.cons_append, leadingColumns_of_not_header c.header?_line,
      c.columnLine?_line, ih]
    rfl

theorem segments_columns_append (columns : List ColumnDescription) (rest : List (List Char)) :
    segments (columns.map (·.line.toList) ++ rest) = segments rest := by
  induction columns with
  | nil => rfl
  | cons c columns ih =>
    rw [List.map_cons, List.cons_append, segments_of_not_header c.header?_line, ih]

/-- **The tables of the lines** are those that are meant. -/
theorem segments_written (ts : List TableDescription) :
    segments ((ts.flatMap TableDescription.written).map String.toList) =
      ts.map TableDescription.table := by
  induction ts with
  | nil => rfl
  | cons t ts ih =>
    -- The next table starts with its header, so that no column after it belongs to this one.
    have hnext : leadingColumns ((ts.flatMap TableDescription.written).map String.toList) = [] := by
      cases ts with
      | nil => rfl
      | cons next ts => exact leadingColumns_of_header next.header?_header _
    have hcolumns := leadingColumns_columns_append t.columns
      ((ts.flatMap TableDescription.written).map String.toList)
    rw [hnext, List.append_nil] at hcolumns
    have hrest := segments_columns_append t.columns
      ((ts.flatMap TableDescription.written).map String.toList)
    rw [ih] at hrest
    rw [List.flatMap_cons, List.map_append, TableDescription.written, List.map_cons,
      List.cons_append, segments_of_header t.header?_header, String.ofList_toList, List.map_map,
      List.map_cons]
    exact congrArg₂ List.cons (congrArg (Table.mk t.name · []) hcolumns) hrest

end SchemaWorkbench.Notation

namespace SchemaWorkbench

open Notation Text

/-- **The notation is faithful**: the text of tables that are written down is read as these tables,
whether its last line ends with a line feed or not. -/
theorem parse_written (ts : List TableDescription) :
    parse ("\n".intercalate (ts.flatMap TableDescription.written)) =
        ts.map TableDescription.table ∧
      parse (String.join ((ts.flatMap TableDescription.written).map (· ++ "\n"))) =
        ts.map TableDescription.table := by
  have hlines : ∀ l ∈ (ts.flatMap TableDescription.written).map String.toList,
      '\n' ∉ l ∧ '\r' ∉ l.getLast? ∧ l ≠ [] := by
    intro l hl
    obtain ⟨s, hs, rfl⟩ := List.mem_map.mp hl
    obtain ⟨t, -, hs⟩ := List.mem_flatMap.mp hs
    exact t.lines_written hs
  constructor
  · rw [parse_eq_segments, String.toList_intercalate]
    have hfound := lines_intercalate (fun l hl => ⟨(hlines l hl).1, (hlines l hl).2.1⟩)
      fun hnil => (hlines [] hnil).2.2 rfl
    rw [show "\n".toList = ['\n'] from rfl, hfound, segments_written]
  · have htext : (String.join ((ts.flatMap TableDescription.written).map (· ++ "\n"))).toList =
        ((ts.flatMap TableDescription.written).map String.toList).flatMap (· ++ ['\n']) := by
      simp [List.flatMap_map, String.toList_append]
    have hfound := lines_flatMap fun l hl => ⟨(hlines l hl).1, (hlines l hl).2.1⟩
    rw [parse_eq_segments, htext, hfound, segments_written]

/-- A column whose name and values look like other parts of the notation. -/
def oddColumn : ColumnDescription where
  name := "table_1"
  type := "Decimal(10"
  flags
    | .primaryKey => some .french
    | .unique => some .english
    | _ => none
  values
    | .reference => some ⟨"default: unique", by decide +kernel⟩
    | .defaultValue => some ⟨"today", by decide +kernel⟩
  order :=
    [.value .defaultValue ⟨"today", by decide +kernel⟩, .flag .unique .english,
      .value .reference ⟨"default: unique", by decide +kernel⟩, .flag .primaryKey .french]
  name_ne_empty := by decide +kernel
  isWordChar_name := List.all_eq_true.mp (by decide +kernel)
  isItem_type := by decide +kernel
  order_perm := by decide +kernel

/-- A table whose name ends with a colon, and one without a name. -/
def oddTables : List TableDescription :=
  [{ name := "table :", columns := [oddColumn], trim_name := by decide +kernel,
     feed_notMem_name := by decide +kernel },
   { name := "", columns := [], trim_name := by decide +kernel,
     feed_notMem_name := by decide +kernel }]

theorem odd_tables_read :
    parse ("table table ::\n" ++
        "- table_1(Decimal(10, default: today, unique, " ++
        "reference: default: unique, clé primaire)\n" ++
        "table :") =
      [{ name := "table :",
         columns := [{ name := "table_1", type := "DECIMAL(10", primaryKey := true, unique := true,
                       defaultValue := some "CURRENT_TIMESTAMP",
                       reference := some "default: unique" }] },
       { name := "" }] := by
  have htext : "\n".intercalate (oddTables.flatMap TableDescription.written) =
      "table table ::\n" ++
        "- table_1(Decimal(10, default: today, unique, " ++
        "reference: default: unique, clé primaire)\n" ++
        "table :" := by
    decide +kernel
  rw [← htext, (parse_written oddTables).1]
  decide +kernel

end SchemaWorkbench
