import SchemaWorkbench.Proofs.Export.Content
import SchemaWorkbench.Proofs.Export.StringLiteral

/-!
# Table names in Java source

An entity names its table in an annotation, `@Table(name = "…")`, with the name of the table between
two quotes as it is. The annotation holds the name if the name is the value of the literal that it
is written in, which leaves out all names with a quote, a backslash or a carriage return. A line
feed cannot stand in a name, so that every annotation is found on a line of its own, whatever stands
in the names before it, and is read by itself.

Annotations are found as text only, without the syntax of Java around them. A name with `/*` in it
opens a comment in the line of its class, and a compiler takes what follows, with the annotations of
later tables, as a part of that comment; here they count all the same.

## Main definitions

* `Java.annotations`: the annotations of Java source that name tables
* `Java.Holds`: the value that an annotation holds
* `Java.Silent`: no annotation that names a table
* `Java.nameArgument`: the argument of the annotation of a table

## Main results

* `Java.holds_iff`: which names are held as they are
* `Java.annotations_text`: there is one annotation for each table
* `Java.annotations_hold_iff`: which tables of a text are named
-/

namespace SchemaWorkbench.Export.Java

open Text

/-! ## Annotations -/

/-- What an annotation starts with that names a table. -/
def annotationMark : String :=
  "@Table(name = "

/-- The annotations of Java source that name tables: the argument of each of them, up to the end of
its line. -/
def annotations (source : List Char) : List (List Char) :=
  (pieces (· = '\n') source).filterMap (·.dropPrefix? annotationMark.toList)

/-- An annotation with this argument holds a string literal of the value, and nothing else before
the parenthesis that closes it. -/
def Holds (argument : List Char) (value : List Nat) : Prop :=
  literal? (translate argument) = some (value, [some ')'.toNat])

/-- **Which names are held as they are**: those without quotes, backslashes and line ends. -/
theorem holds_iff (name : List Char) :
    Holds ('"' :: (name ++ ['"', ')'])) (name.flatMap codeUnits) ↔ ∀ c ∈ name, Plain c := by
  have hafter : '\\' ∉ [')'] := by decide
  have hclose : translate [')'] = [some ')'.toNat] := translate_eq_map hafter
  rw [← literalRest?_eq_iff hafter, hclose, Holds, translate_cons (by decide)]
  exact literal?_eq_iff (by decide)

/-! ## The annotations of an export -/

/-- No annotation that names a table stands in the lines of the text. -/
def Silent (text : List Char) : Prop :=
  ∀ rest, annotations (text ++ rest) = annotations rest

theorem annotations_append_feed {line : List Char} (hfeed : '\n' ∉ line) (rest : List Char) :
    annotations (line ++ '\n' :: rest) =
      (line.dropPrefix? annotationMark.toList).toList ++ annotations rest := by
  rw [annotations, pieces_append_cons (decide_eq_true rfl), pieces_eq_singleton hfeed,
    List.filterMap_append, List.filterMap_cons, List.filterMap_nil]
  cases line.dropPrefix? annotationMark.toList <;> rfl

theorem Silent.append {text text' : List Char} (h : Silent text) (h' : Silent text') :
    Silent (text ++ text') := by
  intro rest
  rw [List.append_assoc, h, h']

theorem silent_nil : Silent [] :=
  fun _ => rfl

/-- A line that starts with anything but an at sign names no table. -/
theorem silent_line (line : List Char) (hfeed : '\n' ∉ line) (hhead : line.head? ≠ some '@') :
    Silent (line ++ ['\n']) := by
  have hmark : line.dropPrefix? annotationMark.toList = none := by
    cases line with
    | nil => rfl
    | cons c line =>
      have hc : c ≠ '@' := fun h => hhead (congrArg some h)
      simp [annotationMark, List.dropPrefix?, hc]
  intro rest
  rw [List.append_assoc, List.singleton_append, annotations_append_feed hfeed, hmark]
  rfl

theorem silent_flatMap {α : Type} {f : α → List Char} {xs : List α} (h : ∀ x ∈ xs, Silent (f x)) :
    Silent (xs.flatMap f) := by
  induction xs with
  | nil => exact silent_nil
  | cons x xs ih =>
    rw [List.forall_mem_cons] at h
    rw [List.flatMap_cons]
    exact h.1.append (ih h.2)

theorem feed_notMem_typeName (type : String) : '\n' ∉ (typeName type).toList := by
  rw [typeName]
  split <;> decide

theorem feed_notMem_name {c : Column} (hc : c.Legible) : '\n' ∉ c.name.toList :=
  fun h => absurd (hc _ h) (by decide)

/-- The lines of a field name no table. -/
theorem silent_field {c : Column} (hc : c.Legible) : Silent (field c).toList := by
  have hkey : Silent (if c.primaryKey then "    @Id\n".toList else []) := by
    split
    · simpa using silent_line "    @Id".toList (by simp) (by simp)
    · exact silent_nil
  have hauto : Silent (if c.autoIncrement then
      "    @GeneratedValue(strategy = GenerationType.IDENTITY)\n".toList else []) := by
    split
    · simpa using silent_line
        "    @GeneratedValue(strategy = GenerationType.IDENTITY)".toList (by simp) (by simp)
    · exact silent_nil
  have hname : Silent ("    private ".toList ++ ((typeName c.type).toList ++
      (" ".toList ++ (c.name.toList ++ ";\n".toList)))) := by
    have hline := silent_line ("    private ".toList ++ ((typeName c.type).toList ++
      (" ".toList ++ (c.name.toList ++ ";".toList))))
      (by simp [feed_notMem_typeName, feed_notMem_name hc]) (by simp)
    simpa using hline
  rw [toList_field]
  exact hkey.append (hauto.append hname)

/-- The argument of the annotation of a table. -/
def nameArgument (t : Table) : List Char :=
  '"' :: (t.name.toList ++ ['"', ')'])

/-- What is written behind the annotation of a table names no table. -/
theorem silent_class {t : Table} (ht : t.Legible) :
    Silent ("public class ".toList ++ ((pascalCase t.name).toList ++ " \x7b".toList ++
      ("\n".toList ++ (t.columns.flatMap (fun c => (field c).toList) ++ "\x7d\n\n".toList)))) := by
  have hopen := silent_line
    ("public class ".toList ++ ((pascalCase t.name).toList ++ " \x7b".toList))
    (by simp [feed_notMem_pascalCase ht.feed_notMem_name]) (by simp)
  have hfields : Silent (t.columns.flatMap fun c => (field c).toList) :=
    silent_flatMap fun c hc => silent_field (ht.columns c hc)
  have hclose := (silent_line "\x7d".toList (by simp) (by simp)).append
    (silent_line [] (by simp) (by simp))
  simpa using hopen.append (hfields.append hclose)

/-- **An entity names its own table**, and no other. -/
theorem annotations_entity {t : Table} (ht : t.Legible) (rest : List Char) :
    annotations ((entity t).toList ++ rest) = nameArgument t :: annotations rest := by
  have hentity : "@Entity".toList.dropPrefix? annotationMark.toList = none := by decide
  have hfeed : '\n' ∉ annotationMark.toList ++ nameArgument t := by
    simp [annotationMark, nameArgument, ht.feed_notMem_name]
  have hmark : (annotationMark.toList ++ nameArgument t).dropPrefix? annotationMark.toList =
      some (nameArgument t) :=
    List.dropPrefix?_append_of_beq _ (beq_self_eq_true _)
  have htext : (entity t).toList ++ rest =
      "@Entity".toList ++ '\n' :: (annotationMark.toList ++ nameArgument t ++ '\n' ::
        ("public class ".toList ++ ((pascalCase t.name).toList ++ " \x7b".toList ++ ("\n".toList ++
          (t.columns.flatMap (fun c => (field c).toList) ++ "\x7d\n\n".toList))) ++ rest)) := by
    simp [toList_entity, annotationMark, nameArgument]
  rw [htext, annotations_append_feed (by decide), hentity, annotations_append_feed hfeed, hmark,
    silent_class ht]
  rfl

/-- **There is one annotation for each table.** -/
theorem annotations_text {s : Schema} (hs : s.Legible) :
    annotations (text s).toList = s.map nameArgument := by
  have hentities (s : Schema) (hs : s.Legible) :
      annotations (s.flatMap fun t => (entity t).toList) = s.map nameArgument := by
    induction s with
    | nil => rfl
    | cons t s ih =>
      obtain ⟨ht, hs⟩ := List.forall_mem_cons.mp hs
      rw [List.flatMap_cons, annotations_entity ht, ih hs, List.map_cons]
  have hheader : Silent header.toList := by
    have hpersistence := silent_line "import jakarta.persistence.*;".toList
      (by simp) (by simp)
    have htime := silent_line "import java.time.LocalDateTime;".toList
      (by simp) (by simp)
    have hempty := silent_line [] (by simp) (by simp)
    simpa [header] using (hpersistence.append htime).append hempty
  by_cases hne : s = []
  · subst hne
    rfl
  · rw [toList_text hne, hheader, hentities s hs]

/-- **Which tables are named.** There is one annotation for each table, and it holds the name of the
table exactly when there is no quote, no backslash and no carriage return in it. -/
theorem annotations_hold_iff (text : String) :
    List.Forall₂
      (fun argument t => Holds argument (t.name.toList.flatMap codeUnits) ↔
        ∀ c ∈ t.name.toList, c ≠ '"' ∧ c ≠ '\\' ∧ c ≠ '\r')
      (annotations (Java.text (parse text)).toList) (parse text) := by
  have hlegible := legible_parse text
  rw [annotations_text hlegible, List.forall₂_map_left_iff, List.forall₂_same]
  intro t ht
  refine (holds_iff t.name.toList).trans (forall₂_congr fun c hc => ?_)
  have hfeed : c ≠ '\n' := fun h => (hlegible t ht).feed_notMem_name (h ▸ hc)
  simp only [Plain, ne_eq, hfeed, not_false_eq_true, true_and]

/-- A quote in the name of a table ends the literal, and the rest of the name stands behind it: the
annotation holds no name at all. -/
theorem table_name_cut_at_quote :
    parse "table a\"b" = [{ name := "a\"b" }] ∧
      annotations (Java.text (parse "table a\"b")).toList = ["\"a\"b\")".toList] ∧
      (∀ value, ¬ Holds "\"a\"b\")".toList value) ∧
      ¬ ∀ text, List.Forall₂
        (fun argument t => Holds argument (t.name.toList.flatMap codeUnits))
        (annotations (Java.text (parse text)).toList) (parse text) := by
  have hparse : parse "table a\"b" = [{ name := "a\"b" }] := by decide +kernel
  have hannotations : annotations (Java.text (parse "table a\"b")).toList =
      ["\"a\"b\")".toList] := by
    rw [annotations_text (legible_parse _), hparse]
    rfl
  have hliteral : literal? (translate "\"a\"b\")".toList) =
      some (['a'.toNat], [some 'b'.toNat, some '"'.toNat, some ')'.toNat]) := by
    have hname : ∀ c ∈ ['a'], Plain c := List.forall_mem_singleton.mpr (by decide)
    have hafter : '\\' ∉ ['b', '"', ')'] := by decide
    have hread := literalRest?_append_quote hname ['b', '"', ')']
    rw [translate_eq_map hafter] at hread
    have htext : "\"a\"b\")".toList = '"' :: (['a'] ++ ['"', 'b', '"', ')']) := rfl
    rw [htext, translate_cons (by decide)]
    exact (literal?_eq_iff (by decide)).mpr hread
  have hholds (value : List Nat) : ¬ Holds "\"a\"b\")".toList value := by
    rw [Holds, hliteral]
    simp
  refine ⟨hparse, hannotations, hholds, fun h => ?_⟩
  have hfirst := h "table a\"b"
  rw [hannotations, hparse] at hfirst
  cases hfirst with
  | cons hhead _ => exact hholds _ hhead

end SchemaWorkbench.Export.Java
