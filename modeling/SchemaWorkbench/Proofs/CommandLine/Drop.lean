import SchemaWorkbench.Proofs.CommandLine.Line
import SchemaWorkbench.Proofs.Notation.Blocks
import SchemaWorkbench.Proofs.Session.Commute

/-!
# Dropping the table that a line opens

A header can give a table nearly any name, and `.drop` reads its argument in its own way: one with a
dot is cut at the first one, into a table and a column of it, and an empty one is refused. The two
meet in all other names. A table with one of these is dropped by its name, whatever stands in it and
whatever other tables there are. Of the tables with the remaining names none is dropped by its name,
though a column of another table may be.

## Main definitions

* `Repl.dropEdit?`: the edit that `.drop` makes of its argument

## Main results

* `Repl.every_enter_header`: a header opens a table
* `Repl.every_enter_drop`: `.drop` makes its edit
* `Repl.drop_opened_iff`: which tables are dropped by their names
-/

namespace SchemaWorkbench

open Text

/-! ## What is removed -/

namespace Schema

variable {name : String} {f : Table → Outcome × Schema}

/-- An edit that leaves one table for another keeps their number. -/
theorem length_editFirst (hf : ∀ t, (f t).2.length = 1) (s : Schema) :
    (s.editFirst name f).2.length = s.length := by
  induction s with
  | nil => rfl
  | cons t ts ih =>
    by_cases ht : t.name = name
    · rw [editFirst_of_name_eq ht, List.length_append, hf, List.length_cons, Nat.add_comm]
    · rw [editFirst_of_name_ne ht, List.length_cons, List.length_cons, ih]

/-- An edit that leaves nothing for a table erases the first one of the name. -/
theorem editFirst_of_nil (hf : ∀ t, (f t).2 = []) (s : Schema) :
    (s.editFirst name f).2 = s.eraseP (·.name == name) := by
  induction s with
  | nil => rfl
  | cons t ts ih =>
    by_cases ht : t.name = name
    · rw [editFirst_of_name_eq ht, hf, List.eraseP_cons_of_pos (by simpa using ht), List.nil_append]
    · rw [editFirst_of_name_ne ht, List.eraseP_cons_of_neg (by simpa using ht), ih]

end Schema

namespace Session

theorem tables_apply_removeTable (s : Session) (name : String) :
    (s.apply (.removeTable name)).2.tables = s.tables.eraseP (·.name == name) := by
  rw [s.tables_apply_eq (e := .removeTable name) rfl, Schema.editFirst_of_nil fun _ => rfl]

/-- No table goes with a column. -/
theorem length_tables_apply_removeColumn (s : Session) (table column : String) :
    (s.apply (.removeColumn table column)).2.tables.length = s.tables.length := by
  rw [s.tables_apply_eq (e := .removeColumn table column) rfl, Schema.length_editFirst]
  intro t
  rw [Edit.onTable]
  split <;> rfl

end Session

namespace CommandLine.Repl

open Dialogue (Event)

variable {client : Client} {s : State}

/-! ## The lines -/

/-- A header starts with a letter, once it is trimmed. -/
theorem exists_trim_eq_cons_of_header? {line name : List Char}
    (h : Notation.header? line = some name) : ∃ c cs, trim line = c :: cs ∧ c ≠ '.' := by
  rw [Notation.header?] at h
  split at h
  · rename_i hword
    cases htrim : trim line with
    | nil => simp [htrim, Notation.headerWord] at hword
    | cons c cs =>
      refine ⟨c, cs, rfl, ?_⟩
      rintro rfl
      simp [htrim, Notation.headerWord] at hword
  · contradiction

/-- **A header opens a table**, after the others. -/
theorem every_enter_header (client : Client) (s : State) {line name : String}
    (hline : tableHeader? line = some name) :
    (enter client s line).Every fun _ r =>
      r = some (s.withSession (s.session.addTable { name := name })) := by
  obtain ⟨cs, hheader, rfl⟩ := Option.map_eq_some_iff.mp hline
  obtain ⟨c, rest, htrim, hdot⟩ := exists_trim_eq_cons_of_header? hheader
  have happly : s.session.applyLine (String.ofList (trim line.toList)) =
      (.tableOpened (String.ofList cs), s.session.addTable { name := String.ofList cs }) := by
    rw [Session.applyLine, tableHeader?, String.toList_ofList, Notation.header?_trim, hheader]
    rfl
  rw [enter]
  -- The line is neither blank nor a command, so that it is a line of the notation.
  split
  · rename_i hnil
    simp [htrim] at hnil
  · rename_i hcommand
    rw [htrim, List.cons.injEq] at hcommand
    exact absurd hcommand.1 hdot
  · rw [editCommand, happly]
    rfl

/-- The command and the argument of a line that drops something. -/
theorem commandOf?_drop {name : List Char} (hname : trim name = name) :
    commandOf? (".drop " ++ String.ofList name) = some (".drop", String.ofList name) := by
  cases name with
  | nil => decide
  | cons c cs =>
    have hline : (".drop " ++ String.ofList (c :: cs)).toList =
        ".drop".toList ++ " ".toList ++ c :: cs := by simp
    have htrim : trim (".drop".toList ++ " ".toList ++ c :: cs) =
        ".drop".toList ++ " ".toList ++ c :: cs :=
      trim_append_append (by decide) hname (by decide) (List.cons_ne_nil c cs) _
    rw [commandOf?, hline, htrim]
    simp [splitCommand, isWhitespace, hname]

/-- The edit that `.drop` makes of its argument, if that is not empty: of one with a dot it removes
a column. -/
def dropEdit? (arg : String) : Option Edit :=
  match cutAt? '.' arg.toList with
  | some (table, column) => some (.removeColumn (String.ofList table) (String.ofList column))
  | none => if arg = "" then none else some (.removeTable arg)

theorem every_dropCommand (s : State) (arg : String) :
    (reporting s (dropCommand s arg)).Every fun _ s' =>
      s' = s.withSession ((dropEdit? arg).elim s.session fun e => (s.session.apply e).2) := by
  rw [dropCommand, dropEdit?]
  -- An edit that fails leaves the session as it is, and so does its report.
  cases cutAt? '.' arg.toList with
  | some cut =>
    obtain ⟨table, column⟩ := cut
    simp only [Option.elim_some, Session.apply]
    cases s.session.removeColumn (String.ofList table) (String.ofList column) <;> rfl
  | none =>
    by_cases harg : arg = ""
    · subst harg
      rfl
    · simp only [if_neg harg, Option.elim_some, Session.apply]
      cases s.session.removeTable arg <;> rfl

/-- **`.drop` makes its edit**, if it has one, and leaves everything else as it is. -/
theorem every_enter_drop (client : Client) (s : State) {name : String}
    (hname : trim name.toList = name.toList) :
    (enter client s (".drop " ++ name)).Every fun _ r =>
      r = some (s.withSession ((dropEdit? name).elim s.session fun e => (s.session.apply e).2)) := by
  have hline := commandOf?_drop hname
  rw [String.ofList_toList] at hline
  rw [enter_of_command client s hline, if_neg (by decide)]
  refine (Dialogue.every_map _ _ _).mpr ?_
  exact (every_dropCommand s name).mono fun _ _ h => congrArg some h

/-! ## Which tables are dropped -/

theorem dropEdit?_of_undotted {name : String} (hne : name ≠ "") (hdot : '.' ∉ name.toList) :
    dropEdit? name = some (.removeTable name) := by
  rw [dropEdit?, cutAt?_of_notMem hdot]
  exact if_neg hne

theorem dropEdit?_of_dotted {name : String} {table column : List Char}
    (hname : name.toList = table ++ '.' :: column) (hdot : '.' ∉ table) :
    dropEdit? name = some (.removeColumn (String.ofList table) (String.ofList column)) := by
  rw [dropEdit?, hname, cutAt?_append hdot]

/-- An argument that is empty or has a dot drops no table. -/
theorem length_tables_dropEdit? (session : Session) {name : String}
    (hname : ¬ (name ≠ "" ∧ '.' ∉ name.toList)) :
    ((dropEdit? name).elim session fun e => (session.apply e).2).tables.length =
      session.tables.length := by
  by_cases hne : name = ""
  · subst hne
    rfl
  · have hdot : '.' ∈ name.toList := by simpa [hne] using hname
    obtain ⟨table, column, hcut, htable⟩ := List.eq_append_cons_of_mem hdot
    rw [dropEdit?_of_dotted hcut htable]
    exact session.length_tables_apply_removeColumn _ _

/-- **Which tables are dropped by their names.** Take any state of an interactive session, a line
that opens a table, and after it the line that drops its name, with any hosts. The first table of
the name is removed, and nothing else is changed in the working copy, exactly when the name is not
empty and holds no dot. An empty name leaves the state as it is, and a name with a dot is cut at the
first one, into the names of a table and of a column to be removed from it. -/
theorem drop_opened_iff (client : Client) (s : State) {line name : String}
    (hline : tableHeader? line = some name) (h h' : Host) :
    ∃ opened dropped : State,
      ((enter client s line).run h).1 = some opened ∧
      opened.session.tables = s.session.tables ++ [{ name := name }] ∧
      ((enter client opened (".drop " ++ name)).run h').1 = some dropped ∧
      (dropped.session.tables = opened.session.tables.eraseP (·.name == name) ↔
        name ≠ "" ∧ '.' ∉ name.toList) ∧
      (name = "" → dropped = opened) ∧
      ∀ table column, name.toList = table ++ '.' :: column → '.' ∉ table →
        dropped.session =
          (opened.session.apply (.removeColumn (String.ofList table) (String.ofList column))).2 := by
  have htrim : trim name.toList = name.toList := by
    obtain ⟨cs, hheader, rfl⟩ := Option.map_eq_some_iff.mp hline
    rw [String.toList_ofList, Notation.trim_of_header? hheader]
  let opened := s.withSession (s.session.addTable { name := name })
  obtain ⟨-, hopened, -⟩ := (every_enter_header client s hline).exists_run h
  obtain ⟨-, hdropped, -⟩ := (every_enter_drop client opened htrim).exists_run h'
  refine ⟨opened, _, hopened, rfl, hdropped, ⟨fun herase => ?_, ?_⟩, ?_, ?_⟩
  · -- The table that was opened is there, so that one table fewer is left without the first one.
    by_contra hname
    have hmem : ({ name := name } : Table) ∈ opened.session.tables :=
      List.mem_append_right _ List.mem_cons_self
    have hfewer := List.length_eraseP_add_one (p := (·.name == name)) hmem (beq_self_eq_true name)
    have hsame := (length_tables_dropEdit? opened.session hname).symm.trans
      (congrArg List.length herase)
    omega
  · rintro ⟨hne, hdot⟩
    rw [dropEdit?_of_undotted hne hdot]
    exact opened.session.tables_apply_removeTable name
  · rintro rfl
    rfl
  · intro table column hcut htable
    rw [dropEdit?_of_dotted hcut htable]
    rfl

/-- A name can hold spaces, and a header gives it in another form than it is dropped by. -/
theorem table_with_space_dropped :
    let s := start { capacity := 3 }
    tableHeader? "TABLE  a b :" = some "a b" ∧ ∃ opened dropped : State,
      ((enter ⟨"http://a"⟩ s "TABLE  a b :").run {}).1 = some opened ∧
      opened.session.tables = [{ name := "a b" }] ∧
      ((enter ⟨"http://a"⟩ opened (".drop " ++ "a b")).run {}).1 = some dropped ∧
      dropped.session.tables = [] := by
  intro s
  have hname : tableHeader? "TABLE  a b :" = some "a b" := by decide
  obtain ⟨opened, dropped, hopened, htables, hdropped, hiff, -⟩ :=
    drop_opened_iff ⟨"http://a"⟩ s hname {} {}
  refine ⟨hname, opened, dropped, hopened, htables, hdropped, ?_⟩
  rw [hiff.mpr ⟨by decide, by decide⟩, htables]
  decide

/-- Tables that their names do not drop. With a dot in the name a column of another table goes for
it, and with an empty name nothing happens. -/
theorem opened_tables_stay :
    let a : Table := { name := "a", columns := [Template.id.column] }
    let s := (start { capacity := 3 }).withSession ((Session.start History.empty).addTable a)
    (tableHeader? "table a.id" = some "a.id" ∧ ∃ opened dropped : State,
      ((enter ⟨"http://a"⟩ s "table a.id").run {}).1 = some opened ∧
      ((enter ⟨"http://a"⟩ opened (".drop " ++ "a.id")).run {}).1 = some dropped ∧
      opened.session.tables = [a, { name := "a.id" }] ∧
      dropped.session.tables = [{ name := "a" }, { name := "a.id" }] ∧
      dropped.session.tables ≠ opened.session.tables.eraseP (·.name == "a.id")) ∧
    tableHeader? "table :" = some "" ∧ ∃ opened dropped : State,
      ((enter ⟨"http://a"⟩ s "table :").run {}).1 = some opened ∧
      ((enter ⟨"http://a"⟩ opened (".drop " ++ "")).run {}).1 = some dropped ∧
      opened.session.tables = [a, { name := "" }] ∧
      dropped.session.tables = [a, { name := "" }] ∧
      dropped.session.tables ≠ opened.session.tables.eraseP (·.name == "") := by
  intro a s
  refine ⟨⟨by decide, _, _, rfl, rfl, rfl, rfl, by decide⟩, ?_⟩
  exact ⟨by decide, _, _, rfl, rfl, rfl, rfl, by decide⟩

end CommandLine.Repl

end SchemaWorkbench
