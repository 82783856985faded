import SchemaWorkbench.Export.Java
import SchemaWorkbench.Export.TypeScript
import SchemaWorkbench.Proofs.Export.TypeNames
import SchemaWorkbench.Proofs.Notation.Blocks

/-!
# What an export shows

Two schemas have the same export exactly when they agree in all that the export shows: no table or
column is lost, and none can be taken for a part of another one. For that the names of columns must
be words, and the names of tables stand on one line, as in every schema that is parsed. Apart from
that the name of a table can hold anything, also what looks like code of the export.

An export is read from the left. The code of a table is delimited, and so is every line of it: what
stands on the line is known but for runs of characters, each with a character behind it that the run
cannot hold. A table name can hold everything but the line feed, so that its run takes in the rest
of its line.

## Main definitions

* `Schema.Legible`: column names are words, and table names stand on one line
* `TypeScript.content`, `Java.content`: what an export shows of a table

## Main results

* `TypeScript.delimited_interface`, `Java.delimited_entity`: the code of a table is delimited
* `TypeScript.text_eq_iff`, `Java.text_eq_iff`: which schemas have the same export
* `exports_show_content`: both together
-/

namespace SchemaWorkbench

open Text
open Notation (isWordChar)

/-! ## Legible names -/

/-- The name of the column is a word of ASCII letters, digits and underscores. -/
def Column.Legible (c : Column) : Prop :=
  ∀ ch ∈ c.name.toList, ch.isAlphanum ∨ ch = '_'

/-- The name of the table stands on one line, and the names of its columns are words. -/
structure Table.Legible (t : Table) : Prop where
  feed_notMem_name : '\n' ∉ t.name.toList
  columns : ∀ c ∈ t.columns, c.Legible

/-- All names in the schema are legible. -/
def Schema.Legible (s : Schema) : Prop :=
  ∀ t ∈ s, t.Legible

instance (c : Column) : Decidable c.Legible :=
  List.decidableBAll _ _

instance (t : Table) : Decidable t.Legible :=
  decidable_of_iff ('\n' ∉ t.name.toList ∧ ∀ c ∈ t.columns, c.Legible)
    ⟨fun h => ⟨h.1, h.2⟩, fun h => ⟨h.feed_notMem_name, h.columns⟩⟩

instance (s : Schema) : Decidable s.Legible :=
  List.decidableBAll _ _

theorem tidy_of_mem_parse {text : String} {t : Table} (ht : t ∈ parse text) : t.Tidy := by
  rw [parse_eq_segments] at ht
  exact Notation.tidy_of_mem_segments feed_notMem_of_mem_lines ht

/-- The names in a text are legible. -/
theorem legible_parse (text : String) : (parse text).Legible := fun _ ht =>
  have htidy := tidy_of_mem_parse ht
  ⟨htidy.feed_notMem_name, fun c hc => (htidy.columns c hc).name_word⟩

theorem Column.Legible.isWordChar {c : Column} (hc : c.Legible) :
    ∀ ch ∈ c.name.toList, isWordChar ch :=
  fun ch hch => by simpa [Notation.isWordChar] using hc ch hch

namespace Export

/-- A run that stands on one line, with the rest of its line. -/
theorem ne_feed_of_mem_append {run text : List Char} (hrun : '\n' ∉ run) (htext : '\n' ∉ text) :
    ∀ c ∈ run ++ text, c != '\n' := by
  intro c hc
  rw [bne_iff_ne]
  rintro rfl
  exact (List.mem_append.mp hc).elim hrun htext

variable {s s' : Schema}

/-! ## TypeScript -/

namespace TypeScript

/-- What an interface shows of a column. -/
def columnContent (c : Column) : String × Bool × String :=
  (c.name, c.required, typeName c.type)

/-- What an interface shows of a table. -/
def content (t : Table) : String × List (String × Bool × String) :=
  (pascalCase t.name, t.columns.map columnContent)

theorem ne_semicolon_of_mem_typeName (type : String) :
    ∀ c ∈ (typeName type).toList, c != ';' := by
  rw [typeName]
  split <;> simp

theorem toList_property (c : Column) : (property c).toList =
    "  ".toList ++ (c.name.toList ++ ((if !c.required then "?".toList else []) ++
      (": ".toList ++ ((typeName c.type).toList ++ ";\n".toList)))) := by
  cases hc : c.required <;> simp [property, hc]

theorem toList_interface (t : Table) : (interface t).toList =
    "interface ".toList ++ ((pascalCase t.name).toList ++ " \x7b".toList ++ ("\n".toList ++
      (t.columns.flatMap (fun c => (property c).toList) ++ "\x7d\n\n".toList))) := by
  simp [interface, String.toList_join, List.flatMap_map]

theorem toList_text (s : Schema) : (text s).toList = s.flatMap fun t => (interface t).toList := by
  rw [text, String.toList_join, List.flatMap_map]

/-- The property of a column is delimited. -/
theorem delimited_property :
    Delimited Column.Legible (fun c => (property c).toList) columnContent := by
  -- From the end of the line to its start: the type, the mark of an optional property, the name.
  have hsemicolon (c : Column) (_ : c.Legible) := ne_semicolon_of_mem_typeName c.type
  have htype := Delimited.run hsemicolon ";\n".toList ⟨_, _, rfl, rfl⟩
  have hoptional := (htype.append_left ": ".toList).flag "?".toList
    (fun _ _ _ _ => by simp) fun c => !c.required
  have hname := hoptional.append_run (fun c hc => hc.isWordChar)
    fun c _ => by cases c.required <;> exact ⟨_, _, rfl, by decide⟩
  simp only [toList_property]
  refine (hname.append_left "  ".toList).congr fun c d => ?_
  simp [columnContent, String.toList_inj]

/-- **The interface of a table is delimited.** -/
theorem delimited_interface :
    Delimited Table.Legible (fun t => (interface t).toList) content := by
  -- The brace that ends the columns starts none of them. The run of the name takes in the brace
  -- behind it, as the name can hold braces, and ends with the line.
  have hcolumns := delimited_property.list "\x7d\n\n".toList
    fun c _ _ _ => by simp [toList_property]
  have hbody := (hcolumns.comp fun (t : Table) (ht : t.Legible) => ht.columns).append_left
    "\n".toList
  have hname := hbody.append_run (fun t ht => ne_feed_of_mem_append
    (feed_notMem_pascalCase ht.feed_notMem_name) (by decide : '\n' ∉ " \x7b".toList))
    fun t _ => ⟨_, _, rfl, rfl⟩
  simp only [toList_interface]
  refine (hname.append_left "interface ".toList).congr fun t u => ?_
  simp [content, String.toList_inj]

/-- **The interfaces of a schema** show the content of its tables and nothing else. -/
theorem text_eq_iff (hs : s.Legible) (hs' : s'.Legible) :
    text s = text s' ↔ s.map content = s'.map content := by
  rw [← String.toList_inj, toList_text, toList_text]
  exact delimited_interface.flatMap_eq_iff (fun t _ => by simp [toList_interface]) hs hs'

end TypeScript

/-! ## Java -/

namespace Java

/-- What an entity shows of a column. -/
def columnContent (c : Column) : Bool × Bool × String × String :=
  (c.primaryKey, c.autoIncrement, typeName c.type, c.name)

/-- What an entity shows of a table. -/
def content (t : Table) : String × List (Bool × Bool × String × String) :=
  (t.name, t.columns.map columnContent)

theorem ne_space_of_mem_typeName (type : String) :
    ∀ c ∈ (typeName type).toList, c != ' ' := by
  rw [typeName]
  split <;> simp

theorem toList_field (c : Column) : (field c).toList =
    (if c.primaryKey then "    @Id\n".toList else []) ++
      ((if c.autoIncrement then
          "    @GeneratedValue(strategy = GenerationType.IDENTITY)\n".toList else []) ++
        ("    private ".toList ++ ((typeName c.type).toList ++
          (" ".toList ++ (c.name.toList ++ ";\n".toList))))) := by
  rw [field]
  cases c.primaryKey <;> cases c.autoIncrement <;>
    simp only [if_true, if_false, Bool.false_eq_true, String.toList_append, String.toList_empty,
      List.nil_append, List.append_assoc]

theorem toList_entity (t : Table) : (entity t).toList =
    "@Entity\n@Table(name = \"".toList ++ (t.name.toList ++ "\")".toList ++
      ("\npublic class ".toList ++ ((pascalCase t.name).toList ++ " \x7b".toList ++ ("\n".toList ++
        (t.columns.flatMap (fun c => (field c).toList) ++ "\x7d\n\n".toList))))) := by
  have hname : "\")\npublic class " = "\")" ++ "\npublic class " := rfl
  have hopen : " \x7b\n" = " \x7b" ++ "\n" := rfl
  unfold entity
  rw [hname, hopen]
  simp only [String.toList_append, String.toList_join, List.flatMap_map, List.append_assoc]

theorem toList_text {s : Schema} (hs : s ≠ []) :
    (text s).toList = header.toList ++ s.flatMap fun t => (entity t).toList := by
  rw [text, if_neg hs, String.toList_append, String.toList_join, List.flatMap_map]

/-- The lines of a field differ in what they start with. -/
theorem idMark_append_ne (auto : Bool) (tail rest rest' : List Char) :
    "    @Id\n".toList ++ rest ≠
      (if auto then "    @GeneratedValue(strategy = GenerationType.IDENTITY)\n".toList else []) ++
        ("    private ".toList ++ tail) ++ rest' := by
  cases auto <;> simp

/-- The field of a column is delimited. -/
theorem delimited_field : Delimited Column.Legible (fun c => (field c).toList) columnContent := by
  have hspace (c : Column) (_ : c.Legible) := ne_space_of_mem_typeName c.type
  have hname := Delimited.run (fun c (hc : Column.Legible c) => hc.isWordChar)
    ";\n".toList ⟨_, _, rfl, by decide⟩
  have htype := (hname.append_left " ".toList).append_run hspace fun c _ => ⟨_, _, rfl, rfl⟩
  have hauto := (htype.append_left "    private ".toList).flag
    "    @GeneratedValue(strategy = GenerationType.IDENTITY)\n".toList
    (fun _ _ _ _ => by simp) Column.autoIncrement
  have hkey := hauto.flag "    @Id\n".toList
    (fun c _ => idMark_append_ne c.autoIncrement _) Column.primaryKey
  simp only [toList_field]
  refine hkey.congr fun c d => ?_
  simp [columnContent, String.toList_inj]

/-- **The entity of a table is delimited.** -/
theorem delimited_entity : Delimited Table.Legible (fun t => (entity t).toList) content := by
  -- Both names end with their lines, whatever quotes and braces they hold.
  have hcolumns := delimited_field.list "\x7d\n\n".toList fun c _ _ _ => by
    cases hkey : c.primaryKey <;> cases hauto : c.autoIncrement <;>
      simp [toList_field, hkey, hauto]
  have hbody := (hcolumns.comp fun (t : Table) (ht : t.Legible) => ht.columns).append_left
    "\n".toList
  have hclass := hbody.append_run (fun t ht => ne_feed_of_mem_append
    (feed_notMem_pascalCase ht.feed_notMem_name) (by decide : '\n' ∉ " \x7b".toList))
    fun t _ => ⟨_, _, rfl, rfl⟩
  have hname := (hclass.append_left "\npublic class ".toList).append_run
    (fun t ht => ne_feed_of_mem_append ht.feed_notMem_name (by decide : '\n' ∉ "\")".toList))
    fun t _ => ⟨_, _, rfl, rfl⟩
  simp only [toList_entity]
  refine (hname.append_left "@Entity\n@Table(name = \"".toList).congr fun t u => ?_
  -- The name of the class is made from the name of the table, and shows nothing else.
  simp only [content, Prod.mk.injEq, List.append_left_inj, String.toList_inj]
  constructor
  · rintro ⟨hname, -, hcolumns⟩
    exact ⟨hname, hcolumns⟩
  · rintro ⟨hname, hcolumns⟩
    exact ⟨hname, by rw [hname], hcolumns⟩

/-- **The entities of a schema** show the content of its tables and nothing else. -/
theorem text_eq_iff (hs : s.Legible) (hs' : s'.Legible) :
    text s = text s' ↔ s.map content = s'.map content := by
  rw [← String.toList_inj]
  -- Only an empty schema has no header.
  cases s with
  | nil =>
    cases s' with
    | nil => simp
    | cons t' ts' =>
      rw [toList_text (List.cons_ne_nil t' ts')]
      simp [text, header]
  | cons t ts =>
    rw [toList_text (List.cons_ne_nil t ts)]
    cases s' with
    | nil => simp [text, header]
    | cons t' ts' =>
      rw [toList_text (List.cons_ne_nil t' ts'), List.append_cancel_left_eq]
      exact delimited_entity.flatMap_eq_iff (fun t _ => by simp [toList_entity]) hs hs'

end Java

/-- **What exports show.** Take schemas with names like those of a schema that is parsed: the names
of columns are words, which in a parsed schema are not empty, and those of tables stand on one line.
They have the same TypeScript export exactly when their tables have, one by one, types of the same
name, with columns that agree in name, optionality and TypeScript type. They have the same Java
export exactly when their tables have the same names, with columns that agree in their marks, Java
type and name. -/
theorem exports_show_content :
    (∀ text, (parse text).Legible ∧ ∀ t ∈ parse text, ∀ c ∈ t.columns, c.name ≠ "") ∧
    ∀ s s' : Schema, s.Legible → s'.Legible →
      (TypeScript.text s = TypeScript.text s' ↔
        s.map TypeScript.content = s'.map TypeScript.content) ∧
      (Java.text s = Java.text s' ↔ s.map Java.content = s'.map Java.content) :=
  ⟨fun text => ⟨legible_parse text, fun _ ht c hc =>
      ((tidy_of_mem_parse ht).columns c hc).name_ne_empty⟩,
    fun _ _ hs hs' => ⟨TypeScript.text_eq_iff hs hs', Java.text_eq_iff hs hs'⟩⟩

/-- A table with code in its name, and before it one that has lost its key: only Java shows that. -/
theorem key_shown_by_java :
    let named (key : Bool) : Schema :=
      [{ name := "a\") \x7b", columns := [{ name := "id", type := "INT", primaryKey := key }] },
        { name := "\x7d @Id" }]
    (named true).Legible ∧ (named false).Legible ∧
      TypeScript.text (named true) = TypeScript.text (named false) ∧
      Java.text (named true) ≠ Java.text (named false) := by
  intro named
  have hlegible (key : Bool) : (named key).Legible := by cases key <;> decide
  have h := exports_show_content.2 _ _ (hlegible true) (hlegible false)
  refine ⟨hlegible true, hlegible false, h.1.mpr rfl, fun hjava => ?_⟩
  have hcontent := h.2.mp hjava
  simp [named, Java.content, Java.columnContent] at hcontent

end Export

end SchemaWorkbench
