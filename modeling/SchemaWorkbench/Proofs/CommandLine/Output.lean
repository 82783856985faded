import SchemaWorkbench.CommandLine.Run
import SchemaWorkbench.Proofs.CommandLine.Arguments
import SchemaWorkbench.Proofs.CommandLine.Task

/-!
# Where a text is written

Two commands make a text: from a schema that is read, with settings that are read before it, and for
SQL with an answer of the service. All that comes before the text is made only reads, so that a
failure leaves no trace but its report. The text itself does not depend on where it goes, and the
only step after it is that it is printed or written to a file. If that step fails, the file was not
opened, or a host that does not write files whole has left the beginning of the text in it.

## Main definitions

* `Writing.render`, `Invocation.text`: the text of a command, and of an invocation

## Main results

* `Invocation.keeps_text`: making the text only reads
* `execute_cases`: what comes of a run of a command that writes a text
* `output_changes_destination`: runs with and without a file to write to, and runs that fail
-/

namespace SchemaWorkbench.CommandLine

open Export (Format)

namespace Writing

/-- The input of which a text is made. -/
def input : Writing → String
  | exportTo input _ _ => input
  | generate input _ => input

/-- The text that is made of a schema. -/
def render (client : Client) (config : Config) (s : Schema) : Writing → Task String
  | exportTo _ format dialect =>
    match format, dialect with
    | .json, some d => return ((Document.ofSchema s).withDialect d.name).text
    | _, _ => renderSchema client (dialect.getD config.dialect) format s
  | generate _ dialect =>
    .ofDialogue Failure.ofService (client.generate s (dialect.getD config.dialect))

end Writing

/-- The command reads its schema, makes the text and writes it. -/
theorem runCommand_writing (client : Client) (config : Config) (w : Writing)
    (output : Option String) :
    runCommand client config (w.command output) = do
      let schema ← readSchema w.input
      let text ← w.render client config schema
      writeText output text
      return .exit 0 := by
  cases w with
  -- Only JSON with a dialect has a text of its own, all other formats share theirs.
  | exportTo input format dialect => cases format <;> cases dialect <;> rfl
  | generate input dialect => rfl

/-! ## The tasks of a command that writes a text -/

namespace Task

open Dialogue (keeps_finish)

theorem keeps_render (client : Client) (config : Config) (s : Schema) (w : Writing) :
    (w.render client config s).run.Keeps := by
  cases w with
  | exportTo input format dialect =>
    dsimp only [Writing.render]
    split
    · exact keeps_finish _
    · exact keeps_renderSchema _ _ _ _
  | generate input dialect => exact keeps_ofDialogue _ (client.keeps_generate _ _)

theorem keeps_readConfig (path : String) : (readConfig path).run.Keeps := by
  refine keeps_bind (keeps_ofDialogue _ (Dialogue.keeps_readFile path)) fun text => ?_
  split
  · exact keeps_finish _
  · exact keeps_finish _

theorem keeps_discoverConfig (paths : List String) : (discoverConfig paths).run.Keeps := by
  induction paths with
  | nil => exact keeps_finish _
  | cons path paths ih =>
    refine keeps_bind (Dialogue.keeps_isFile path) fun found => ?_
    split
    · exact keeps_readConfig path
    · exact ih

theorem keeps_configOf (env : Environment) (inv : Invocation) : (configOf env inv).run.Keeps := by
  rw [configOf]
  split
  · exact keeps_readConfig _
  · exact keeps_discoverConfig _

end Task

/-! ## A run of a command that writes a text -/

/-- The text that an invocation writes. -/
def Invocation.text (env : Environment) (inv : Invocation) (w : Writing) : Task String := do
  let config ← configOf env inv
  let schema ← readSchema w.input
  w.render (Client.ofUrl ((inv.apiUrl <|> env.apiUrl).getD config.serviceUrl)) config schema

/-- **Making the text only reads.** -/
theorem Invocation.keeps_text (env : Environment) (inv : Invocation) (w : Writing) :
    (inv.text env w).run.Keeps := by
  refine Task.keeps_bind (Task.keeps_configOf env inv) fun config => ?_
  refine Task.keeps_bind (Task.keeps_readSchema w.input) fun schema => ?_
  exact Task.keeps_render _ config schema w

/-- The exit code after a task, and the host, to which a failure was reported. -/
def reported : Except Failure Unit × Host → Nat × Host
  | (.ok (), h) => (0, h)
  | (.error e, h) => (1, { h with errors := h.errors ++ e.report })

variable {env : Environment} {arguments : List String} {inv : Invocation} {w : Writing}
  {output : Option String}

theorem runInvocation_writing (hcommand : inv.command = some (w.command output)) :
    runInvocation env inv = do
      let text ← inv.text env w
      writeText output text
      return .exit 0 := by
  simp only [runInvocation, hcommand, runCommand_writing, Invocation.text, bind_assoc]

/-- **A run of a command that writes a text** makes the text, writes it, and reports what fails. -/
theorem execute_writing (hinv : Invocation.ofArguments arguments = .ok inv)
    (hcommand : inv.command = some (w.command output)) (h : Host) :
    execute env arguments h =
      reported ((inv.text env w >>= fun text => writeText output text).run.run h) := by
  rw [execute, program, hinv]
  dsimp only
  rw [runInvocation_writing hcommand, Dialogue.run_bind, ← bind_assoc, Task.run_bind]
  obtain ⟨r, h'⟩ := (inv.text env w >>= fun text => writeText output text).run.run h
  cases r with
  | ok a => rfl
  | error e => rfl

/-- What comes of a run: a failure is reported, or the text is printed, or writing it to the file
was tried. -/
theorem execute_cases (hinv : Invocation.ofArguments arguments = .ok inv)
    (hcommand : inv.command = some (w.command output)) (h : Host) :
    (∃ report h₁, Host.Kept h h₁ ∧
        execute env arguments h = (1, { h₁ with errors := h₁.errors ++ report })) ∨
      ∃ text h₁, Host.Kept h h₁ ∧ (inv.text env w).run.run h = (.ok text, h₁) ∧
        match output with
        | none => execute env arguments h = (0, { h₁ with output := h₁.output ++ text })
        | some path =>
          (∃ h₂, h₁.write path text = (.ok (), h₂) ∧ execute env arguments h =
            (0, { h₂ with output := h₂.output ++ ("✓ Wrote " ++ path ++ "\n") })) ∨
          ∃ fault report h₂, h₁.write path text = (.error fault, h₂) ∧
            execute env arguments h = (1, { h₂ with errors := h₂.errors ++ report }) := by
  have hkept := inv.keeps_text env w h
  rw [execute_writing hinv hcommand, Task.run_bind]
  obtain ⟨r, h₁, hmade⟩ : ∃ r h₁, (inv.text env w).run.run h = (r, h₁) := ⟨_, _, rfl⟩
  rw [hmade] at hkept ⊢
  cases r with
  | error e => exact .inl ⟨e.report, h₁, hkept, rfl⟩
  | ok text =>
    -- From here on there is only one step that can fail, and it comes before anything is printed.
    cases output with
    | none => exact .inr ⟨text, h₁, hkept, rfl, rfl⟩
    | some path =>
      refine .inr ⟨text, h₁, hkept, rfl, ?_⟩
      dsimp only
      rw [Task.run_writeText_some]
      obtain ⟨r, h₂, hwrite⟩ : ∃ r h₂, h₁.write path text = (r, h₂) := ⟨_, _, rfl⟩
      rw [hwrite]
      cases r with
      | ok _ => exact .inl ⟨h₂, rfl, rfl⟩
      | error fault => exact .inr ⟨fault, _, h₂, rfl, rfl⟩

/-- Writing a file that fails prints nothing, and it leaves all files as they are unless it was
stopped. Nothing that was read before it makes a difference. -/
theorem unchanged_or_stopped_of_write {h h₁ h₂ : Host} {path text : String} {fault : FileFault}
    (hkept : Host.Kept h h₁) (hwrite : h₁.write path text = (.error fault, h₂)) :
    h₂.output = h.output ∧ (h₂.files = h.files ∨ h.Stopped path text h₂) := by
  rcases Host.eq_or_replace_of_failed_write hwrite with rfl | ⟨place, n, hplace, hstop, rfl⟩
  · exact ⟨hkept.output, .inl hkept.files⟩
  · -- The path leads to the same place, and writing stops there at the same byte.
    rw [hkept.locateNew_eq] at hplace
    rw [hkept.stop] at hstop
    refine ⟨hkept.output, .inr ⟨place, n, fault, hplace, hstop, ?_⟩⟩
    rw [Host.replace, Host.replace, hkept.files]

/-- After a failure nothing was printed, and all files are as they were unless writing the text was
stopped. -/
theorem unchanged_or_stopped_of_failed {h : Host}
    (hinv : Invocation.ofArguments arguments = .ok inv)
    (hcommand : inv.command = some (w.command output)) (hcode : (execute env arguments h).1 = 1) :
    (execute env arguments h).2.output = h.output ∧
      ((execute env arguments h).2.files = h.files ∨ ∃ path text, output = some path ∧
        ((inv.text env w).run.run h).1 = .ok text ∧
          h.Stopped path text (execute env arguments h).2) := by
  rcases execute_cases hinv hcommand h with ⟨report, h₁, hkept, hrun⟩ |
    ⟨text, h₁, hkept, hmade, hrun⟩
  · rw [hrun]
    exact ⟨hkept.output, .inl hkept.files⟩
  · cases output with
    | none =>
      rw [hrun] at hcode
      contradiction
    | some path =>
      rcases hrun with ⟨h₂, -, hrun⟩ | ⟨fault, report, h₂, hwrite, hrun⟩
      · rw [hrun] at hcode
        contradiction
      · rw [hmade, hrun]
        obtain ⟨houtput, hfiles⟩ := unchanged_or_stopped_of_write hkept hwrite
        exact ⟨houtput, hfiles.imp_right fun hstopped => ⟨path, text, rfl, rfl, hstopped⟩⟩

/-- After a success the text was made, and it was written to the file. -/
theorem exists_write_of_succeeded {h : Host} {path : String}
    (hinv : Invocation.ofArguments arguments = .ok inv)
    (hcommand : inv.command = some (w.command (some path)))
    (hcode : (execute env arguments h).1 = 0) :
    ∃ text h₁ h₂, Host.Kept h h₁ ∧ (inv.text env w).run.run h = (.ok text, h₁) ∧
      h₁.write path text = (.ok (), h₂) ∧
      (execute env arguments h).2 =
        { h₂ with output := h₂.output ++ ("✓ Wrote " ++ path ++ "\n") } := by
  rcases execute_cases hinv hcommand h with ⟨_, _, -, hrun⟩ |
    ⟨text, h₁, hkept, hmade, ⟨h₂, hwrite, hrun⟩ | ⟨_, _, _, -, hrun⟩⟩
  · rw [hrun] at hcode
    contradiction
  · rw [hrun]
    exact ⟨text, h₁, h₂, hkept, hmade, hwrite, rfl⟩
  · rw [hrun] at hcode
    contradiction

/-- A text that is made is printed if there is no file for it. -/
theorem execute_printing {h h₁ : Host} {text : String}
    (hinv : Invocation.ofArguments arguments = .ok inv)
    (hcommand : inv.command = some (w.command none))
    (hmade : (inv.text env w).run.run h = (.ok text, h₁)) :
    execute env arguments h = (0, { h₁ with output := h₁.output ++ text }) := by
  rw [execute_writing hinv hcommand, Task.run_bind, hmade]
  rfl

end SchemaWorkbench.CommandLine
