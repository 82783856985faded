import SchemaWorkbench.CommandLine.Repl
import SchemaWorkbench.Proofs.CommandLine.Task

/-!
# What a line of the interactive session does

A line of the interactive session is blank, an edit in the notation, or a command. Whatever its
surroundings answer, a command makes at most one edit of the session, and of the commands only six
make one; only `.dialect` changes the dialect; and only `.generate` and `.export` ask the service,
with one request.

A command that is refused leaves the session as it is. That it was refused can be seen on the error
output: of the commands that report what they refuse to edit, what is reported begins with a mark
that none of them uses for anything else.

## Main definitions

* `Repl.Follows`, `Repl.Leads`: what a command and what a line can make of a state
* `Repl.commandOf?`: the command that a line gives
* `Repl.request?`, `Repl.lineRequest?`: the request of a command and of a line

## Main results

* `Repl.every_command`, `Repl.every_enter`: what a command and what a line make of a state
* `Repl.sends_command`, `Repl.sends_enter`: a command and a line send their request
* `Repl.refused_enter`: a command that reports a refusal leaves the state as it is
-/

namespace SchemaWorkbench.CommandLine.Repl

open Dialogue (Event Every requestsOf warningsOf)
open Export (Format)

variable {α : Type} {s : State}

/-! ## Reporting -/

theorem every_reporting (otherwise : α) (t : Task α) (P : List Event → α → Prop) :
    (reporting otherwise t).Every P ↔ t.run.Every fun events r =>
      match r with
      | .ok a => P events a
      | .error e => P (events ++ [.warned ("✗ " ++ e.message ++ "\n")]) otherwise := by
  refine (Dialogue.every_bind t.run _ P).trans ?_
  refine iff_of_eq (congrArg _ (funext fun events => funext fun r => ?_))
  cases r with
  | ok a => exact congrArg (P · a) (List.append_nil events)
  | error e => rfl

theorem sends_reporting {otherwise : α} {t : Task α} {requests : List Request}
    (ht : t.run.Sends requests) : (reporting otherwise t).Sends requests := by
  refine (every_reporting otherwise t _).mpr (ht.mono fun events r hsent => ?_)
  cases r with
  | ok a => exact hsent
  | error e => exact (Dialogue.requestsOf_append _ _).trans (by rw [hsent]; exact List.append_nil _)

/-- A discreet task writes no file. It leaves the state as it is when it fails, and only then is a
refusal reported. -/
theorem discreet_reporting {otherwise : α} {t : Task α} {P : α → Prop} (ht : t.Discreet P) :
    (reporting otherwise t).Every fun events a => (∀ path text, .wrote path text ∉ events) ∧
      ((warningsOf events).toList.head? = some '✗' → a = otherwise) ∧ (a = otherwise ∨ P a) := by
  refine (every_reporting otherwise t _).mpr (ht.mono ?_)
  rintro events r ⟨hquiet, hresult⟩
  cases r with
  | ok a =>
    exact ⟨hquiet.wrote, fun hrefused => absurd hrefused hquiet.warned, .inr (hresult a rfl)⟩
  | error e => exact ⟨fun path text => by simp [hquiet.wrote], fun _ => rfl, .inl rfl⟩

theorem every_reportingOnly (s : State) (t : Task Unit) :
    (reportingOnly s t).Every fun _ s' => s' = s := by
  refine (every_reporting s _ _).mpr ((Task.every_bind t _ _).mpr ?_)
  refine Dialogue.every_of_forall (fun events r => ?_) t.run
  cases r with
  | ok _ => rfl
  | error e => rfl

/-! ## Commands -/

/-- The commands that can change the session. -/
def editingCommands : List String :=
  [".undo", ".redo", ".template", ".drop", ".load", ".reset"]

/-- The dialect that a command sets. -/
def dialectSetBy? (name arg : String) : Option Dialect :=
  if name = ".dialect" then Dialect.ofName? arg else none

/-- What a command can make of a state: another dialect, if it sets one, and a session with one more
edit, if it is a command that edits. -/
structure Follows (s : State) (name arg : String) (s' : State) : Prop where
  opening : s'.opening = s.opening
  dialect : s'.dialect = (dialectSetBy? name arg).getD s.dialect
  session : s'.session = s.session ∨
    name ∈ editingCommands ∧ ∃ e, s'.session = (s.session.apply e).2

theorem follows_self {name arg : String} (hname : name ≠ ".dialect") : Follows s name arg s where
  opening := rfl
  dialect := by rw [dialectSetBy?, if_neg hname]; rfl
  session := .inl rfl

theorem follows_edit {name arg : String} (hname : name ∈ editingCommands) (e : Edit) :
    Follows s name arg (s.withSession (s.session.apply e).2) where
  opening := rfl
  dialect := by
    have hne : name ≠ ".dialect" := by
      rintro rfl
      exact absurd hname (by decide)
    rw [dialectSetBy?, if_neg hne]
    rfl
  session := .inr ⟨hname, e, rfl⟩

/-- One edit leads from a state to another one. -/
def Edited (s s' : State) : Prop := ∃ e, s' = s.withSession (s.session.apply e).2

theorem discreet_templateCommand (s : State) (arg : String) :
    (templateCommand s arg).Discreet (Edited s) := by
  rw [templateCommand]
  split
  · rename_i table kind _ _
    split
    · exact Task.discreet_throw _ _
    · rename_i template _
      refine (Task.discreet_ofExcept _ _).bind fun session hsession => ?_
      refine (Task.discreet_put _).bind fun _ _ => Task.discreet_pure ?_
      refine ⟨.addTemplate table template, ?_⟩
      rw [Session.apply, hsession]
      rfl
  · exact Task.discreet_throw _ _

theorem discreet_dropCommand (s : State) (arg : String) :
    (dropCommand s arg).Discreet (Edited s) := by
  rw [dropCommand]
  split
  · rename_i table column _
    refine (Task.discreet_ofExcept _ _).bind fun ⟨dropped, session⟩ hdropped => ?_
    refine (Task.discreet_put _).bind fun _ _ => Task.discreet_pure ?_
    refine ⟨.removeColumn (String.ofList table) (String.ofList column), ?_⟩
    rw [Session.apply, hdropped]
    rfl
  · split
    · exact Task.discreet_throw _ _
    · refine (Task.discreet_ofExcept _ _).bind fun ⟨dropped, session⟩ hdropped => ?_
      refine (Task.discreet_put _).bind fun _ _ => Task.discreet_pure ?_
      refine ⟨.removeTable arg, ?_⟩
      rw [Session.apply, hdropped]
      rfl

theorem discreet_loadCommand (s : State) (arg : String) :
    (loadCommand s arg).Discreet (Edited s) := by
  refine (Task.discreet_readSchema arg).bind fun schema _ => ?_
  exact (Task.discreet_put _).bind fun _ _ => Task.discreet_pure ⟨.load schema, rfl⟩

theorem follows_of_edited {name arg : String} (hname : name ∈ editingCommands) {s' : State}
    (hs' : s' = s ∨ Edited s s') : Follows s name arg s' := by
  rcases hs' with rfl | ⟨e, rfl⟩
  · refine follows_self ?_
    rintro rfl
    exact absurd hname (by decide)
  · exact follows_edit hname e

theorem every_command (client : Client) (s : State) (name arg : String) :
    (command client s name arg).Every fun _ s' => Follows s name arg s' := by
  unfold command
  -- One case for every command, in the order of the definition.
  split
  · exact follows_self (by decide)
  · exact follows_self (by decide)
  · exact follows_edit (by decide) .undo
  · exact follows_edit (by decide) .redo
  · rw [dialectCommand]
    split
    · rename_i d hd
      exact ⟨rfl, by rw [dialectSetBy?, if_pos rfl, hd]; rfl, .inl rfl⟩
    · rename_i hd
      exact ⟨rfl, by rw [dialectSetBy?, if_pos rfl, hd]; rfl, .inl rfl⟩
  · exact (every_reportingOnly s _).mono fun _ _ h => h ▸ follows_self (by decide)
  · exact (every_reportingOnly s _).mono fun _ _ h => h ▸ follows_self (by decide)
  · exact (discreet_reporting (discreet_templateCommand s arg)).mono fun _ _ h =>
      follows_of_edited (by decide) h.2.2
  · exact (discreet_reporting (discreet_dropCommand s arg)).mono fun _ _ h =>
      follows_of_edited (by decide) h.2.2
  · exact (discreet_reporting (discreet_loadCommand s arg)).mono fun _ _ h =>
      follows_of_edited (by decide) h.2.2
  · exact (every_reportingOnly s _).mono fun _ _ h => h ▸ follows_self (by decide)
  · exact follows_edit (by decide) (.load [])
  · exact follows_self (by decide)
  · exact follows_self (by assumption)

/-! ## Requests of a command -/

/-- The format that the first word of an argument names. -/
def firstFormat? (arg : String) : Option Format :=
  ((Text.words arg.toList).map String.ofList).head?.bind Format.ofName?

/-- The request of a command: of `.generate` in the dialect that its argument names, or else in the
current one, and of `.export` in the current one if its first argument names SQL. -/
def request? (client : Client) (tables : Schema) (current : Dialect) (name arg : String) :
    Option Request :=
  if name = ".generate" then
    some (client.generateRequest tables ((Dialect.ofName? arg).getD current))
  else if name = ".export" ∧ firstFormat? arg = some .sql then
    some (client.generateRequest tables current)
  else
    none

theorem sends_saveCommand (s : State) (arg : String) : (saveCommand s arg).run.Sends [] := by
  rw [saveCommand]
  exact Task.sends_writeText _ _

theorem sends_emit (client : Client) (s : State) (format : Format) (file : Option String)
    (dialect : Dialect) :
    (emit client s format file dialect).run.Sends
      (if format = .sql then [client.generateRequest s.session.tables dialect] else []) := by
  -- The service is asked while the text is rendered, and only SQL is not rendered here.
  refine Task.sends_bind ?_ fun text => Task.sends_bind (Task.sends_writeText file text) fun _ => ?_
  · cases format with
    | sql =>
      refine (Task.every_ofDialogue _ _ _).mpr ?_
      exact client.sends_generate s.session.tables dialect
    | json | typeScript | javaEntity => rfl
  · split <;> rfl

theorem sends_exportCommand (client : Client) (s : State) (arg : String) :
    (exportCommand client s arg).run.Sends
      (request? client s.session.tables s.dialect ".export" arg).toList := by
  rw [exportCommand]
  cases hwords : (Text.words arg.toList).map String.ofList with
  | nil =>
    have hfirst : firstFormat? arg = none := by rw [firstFormat?, hwords]; rfl
    rw [request?, if_neg (by decide), if_neg (by simp [hfirst])]
    rfl
  | cons name rest =>
    have hfirst : firstFormat? arg = Format.ofName? name := by rw [firstFormat?, hwords]; rfl
    rw [request?, if_neg (by decide), hfirst]
    dsimp only
    split
    · rename_i hnone
      rw [if_neg (by simp [hnone])]
      rfl
    · rename_i format hformat
      have hemit := sends_emit client s format rest.head? s.dialect
      cases format with
      | sql => rwa [if_pos ⟨rfl, hformat⟩]
      | json | typeScript | javaEntity => rwa [if_neg (by simp [hformat])]

/-- **A command sends its request**, if it has one, and no other. -/
theorem sends_command (client : Client) (s : State) (name arg : String) :
    (command client s name arg).Sends
      (request? client s.session.tables s.dialect name arg).toList := by
  unfold command
  split
  · rfl
  · rfl
  · rfl
  · rfl
  · rw [dialectCommand]
    split <;> rfl
  · exact sends_reporting (Task.sends_bind (sends_exportCommand client s arg) fun _ => rfl)
  · exact sends_reporting (Task.sends_bind (sends_emit client s .sql none _) fun _ => rfl)
  · exact sends_reporting ((discreet_templateCommand s arg).mono fun _ _ h => h.1.sent)
  · exact sends_reporting ((discreet_dropCommand s arg).mono fun _ _ h => h.1.sent)
  · exact sends_reporting ((discreet_loadCommand s arg).mono fun _ _ h => h.1.sent)
  · exact sends_reporting (Task.sends_bind (sends_saveCommand s arg) fun _ => rfl)
  · rfl
  · rfl
  · rename_i hexport hgenerate _ _ _ _ _ _ 
    rw [request?, if_neg hgenerate, if_neg fun h => hexport h.1]
    rfl

/-! ## Lines -/

/-- The command that a line gives, with its argument. -/
def commandOf? (line : String) : Option (String × String) :=
  match Text.trim line.toList with
  | '.' :: rest => some (splitCommand ('.' :: rest))
  | _ => none

/-- The dialect that a line sets. -/
def lineDialect? (line : String) : Option Dialect :=
  (commandOf? line).bind fun (name, arg) => dialectSetBy? name arg

/-- The request of a line. -/
def lineRequest? (client : Client) (tables : Schema) (current : Dialect) (line : String) :
    Option Request :=
  (commandOf? line).bind fun (name, arg) => request? client tables current name arg

section

variable {line name arg : String}

theorem enter_of_command (client : Client) (s : State)
    (hline : commandOf? line = some (name, arg)) :
    enter client s line =
      if name = ".exit" ∨ name = ".quit" then (do Dialogue.put farewell; return none)
      else some <$> command client s name arg := by
  rw [commandOf?] at hline
  split at hline
  · rename_i rest htrim
    have hsplit : splitCommand ('.' :: rest) = (name, arg) := Option.some.inj hline
    rw [enter, htrim]
    simp only [hsplit]
  · contradiction

/-- A line that gives no command is blank, or an edit in the notation. -/
theorem enter_of_notation (client : Client) (s : State) (hline : commandOf? line = none) :
    enter client s line = pure (some s) ∨
      ∃ text, enter client s line = some <$> editCommand s text := by
  rw [commandOf?] at hline
  rw [enter]
  split
  · exact .inl rfl
  · rename_i rest htrim
    simp [htrim] at hline
  · exact .inr ⟨_, rfl⟩

end

/-- What a line can make of a state: another dialect, if it sets one, and a session with one more
edit, if it is not a command that does not edit. -/
structure Leads (s : State) (line : String) (s' : State) : Prop where
  opening : s'.opening = s.opening
  dialect : s'.dialect = (lineDialect? line).getD s.dialect
  session : s'.session = s.session ∨ ∃ e, s'.session = (s.session.apply e).2
  quiet : ∀ name arg, commandOf? line = some (name, arg) → name ∉ editingCommands →
    s'.session = s.session

theorem every_enter (client : Client) (s : State) (line : String) :
    (enter client s line).Every fun _ r => ∀ s' ∈ r, Leads s line s' := by
  cases hline : commandOf? line with
  | none =>
    have hdialect : lineDialect? line = none := by rw [lineDialect?, hline]; rfl
    rcases enter_of_notation client s hline with henter | ⟨text, henter⟩
    · rw [henter]
      rintro s' ⟨⟩
      exact ⟨rfl, by rw [hdialect]; rfl, .inl rfl, fun _ _ _ _ => rfl⟩
    · rw [henter]
      rintro s' ⟨⟩
      exact ⟨rfl, by rw [hdialect]; rfl, .inr ⟨.line text, rfl⟩, fun _ _ h => by simp [hline] at h⟩
  | some call =>
    obtain ⟨name, arg⟩ := call
    have hdialect : lineDialect? line = dialectSetBy? name arg := by rw [lineDialect?, hline]; rfl
    rw [enter_of_command client s hline]
    split
    · exact fun s' hs' => by contradiction
    · refine (Dialogue.every_map _ _ _).mpr ((every_command client s name arg).mono ?_)
      rintro _ _ h s' ⟨⟩
      refine ⟨h.opening, by rw [hdialect]; exact h.dialect, h.session.imp_right And.right, ?_⟩
      -- A line gives one command only, so that the command that does not edit is this one.
      rintro _ _ hcall hquiet
      obtain ⟨rfl, rfl⟩ := Prod.mk.inj (Option.some.inj (hline.symm.trans hcall))
      exact h.session.resolve_right fun hedit => hquiet hedit.1

/-- **A line sends its request**, if it has one, and no other. -/
theorem sends_enter (client : Client) (s : State) (line : String) :
    (enter client s line).Sends (lineRequest? client s.session.tables s.dialect line).toList := by
  cases hline : commandOf? line with
  | none =>
    rw [lineRequest?, hline]
    rcases enter_of_notation client s hline with henter | ⟨text, henter⟩
    · rw [henter]
      rfl
    · rw [henter]
      rfl
  | some call =>
    obtain ⟨name, arg⟩ := call
    rw [lineRequest?, hline, enter_of_command client s hline]
    dsimp only [Option.bind_some]
    split
    · rename_i hexit
      rcases hexit with rfl | rfl <;> rfl
    · exact (Dialogue.every_map _ _ _).mpr (sends_command client s name arg)

/-- The commands that report what they refuse to edit. -/
def refusingCommands : List String := [".template", ".drop", ".load"]

/-- A command that can refuse an edit writes no file, and leaves the state as it is when it reports
a refusal. -/
theorem refused_enter (client : Client) (s : State) {line name arg : String}
    (hline : commandOf? line = some (name, arg)) (hname : name ∈ refusingCommands) :
    (enter client s line).Every fun events r => (∀ path text, .wrote path text ∉ events) ∧
      ((warningsOf events).toList.head? = some '✗' → ∀ s' ∈ r, s' = s) := by
  have hcommand : (command client s name arg).Every fun events s' =>
      (∀ path text, .wrote path text ∉ events) ∧
        ((warningsOf events).toList.head? = some '✗' → s' = s) := by
    simp only [refusingCommands, List.mem_cons, List.not_mem_nil, or_false] at hname
    rcases hname with rfl | rfl | rfl
    · exact (discreet_reporting (discreet_templateCommand s arg)).mono fun _ _ h => ⟨h.1, h.2.1⟩
    · exact (discreet_reporting (discreet_dropCommand s arg)).mono fun _ _ h => ⟨h.1, h.2.1⟩
    · exact (discreet_reporting (discreet_loadCommand s arg)).mono fun _ _ h => ⟨h.1, h.2.1⟩
  have hstays : ¬ (name = ".exit" ∨ name = ".quit") := by
    rintro (rfl | rfl) <;> exact absurd hname (by decide)
  rw [enter_of_command client s hline, if_neg hstays]
  refine (Dialogue.every_map _ _ _).mpr (hcommand.mono ?_)
  rintro events s' ⟨hwrote, hrefused⟩
  refine ⟨hwrote, ?_⟩
  rintro hmark _ ⟨⟩
  exact hrefused hmark

end SchemaWorkbench.CommandLine.Repl
