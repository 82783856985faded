import SchemaWorkbench.Proofs.CommandLine.Conversation
import SchemaWorkbench.Proofs.History.Observers
import SchemaWorkbench.Proofs.Session.Commit

/-!
# The prompt tells the truth

The prompt shows an arrow for undo and one for redo. It does not look at the history: it shows what
its observer was told last, or what the flags were when the observer subscribed. That these are the
flags of now is an invariant of the interactive session. A line makes at most one edit, an edit
makes at most one operation on the history, and every operation keeps its observers informed.

## Main definitions

* `Repl.Prompting`: the observer of the prompt is informed

## Main results

* `Repl.Prompting.of_leads`: every line keeps the observer of the prompt informed
* `Repl.prompts_tell_flags`: every prompt of a conversation shows what can be undone and redone
-/

namespace SchemaWorkbench.CommandLine.Repl

open History (Flags)

/-- The prompt of the state shows what can be undone and redone: its observer is there, and it is
informed. -/
structure Prompting (s : State) : Prop where
  onSnapshot : s.session.history.OnSnapshot
  observed : 0 < s.session.history.observers
  informed : s.session.history.Informed 0 s.opening

/-- The observer of the prompt knows the flags from the beginning, although it subscribes only after
the session has told its observers of the first snapshot. -/
theorem prompting_start (config : Config) : Prompting (start config) where
  onSnapshot := (History.onSnapshot_clear (History.withCapacity config.capacity)).perform (.push [])
  observed := Nat.one_pos
  informed := rfl

/-- **Every line keeps the observer of the prompt informed.** -/
theorem Prompting.of_leads {s s' : State} {line : String} (hs : Prompting s)
    (hleads : Leads s line s') : Prompting s' := by
  obtain ⟨honSnapshot, hobserved, hinformed⟩ := hs
  -- Of the session only its history matters, and an edit is at most one operation on that.
  have hhistory : s'.session.history = s.session.history ∨
      ∃ op, s'.session.history = (s.session.history.perform op).2 := by
    rcases hleads.session with hsame | ⟨e, hedit⟩
    · exact .inl (congrArg Session.history hsame)
    · rw [hedit]
      exact s.session.history_apply e
  rcases hhistory with hsame | ⟨op, hop⟩
  · exact ⟨by rwa [hsame], by rwa [hsame], by rwa [hsame, hleads.opening]⟩
  · refine ⟨?_, ?_, ?_⟩
    · rw [hop]
      exact honSnapshot.perform op
    · rwa [hop, History.observers_perform]
    · rw [hop, hleads.opening]
      exact hinformed.perform honSnapshot hobserved op

theorem Prompting.shown_eq {s : State} (hs : Prompting s) : s.shown = s.session.history.flags :=
  hs.informed

/-- Each arrow stands in a prompt when its flag is set. -/
theorem arrow_mem_promptFor_iff (flags : Flags) :
    ('↶' ∈ (promptFor flags).toList ↔ flags.canUndo) ∧
      ('↷' ∈ (promptFor flags).toList ↔ flags.canRedo) := by
  obtain ⟨canUndo, canRedo⟩ := flags
  cases canUndo <;> cases canRedo <;> simp [promptFor]

/-- **The prompt tells the truth.** Hold a conversation, with any configured capacity, over any
lines of input and with any host, whatever its files hold and its service answers. What it prints
are its prompts, each followed by what the entry at it prints; and each prompt shows the undo arrow
exactly when the history of the session can undo at that moment, and the redo arrow exactly when it
can redo. -/
theorem prompts_tell_flags (client : Client) (config : Config) (h : Host) :
    let turns := turns client (start config) (inputLines h.input) h
    let after := (converse client (start config) (inputLines h.input) h).2
    after.output = h.output ++ String.join (turns.map fun t => t.state.prompt ++ t.reply client) ∧
      ∀ t ∈ turns,
        ('↶' ∈ t.state.prompt.toList ↔ t.state.session.history.canUndo) ∧
          ('↷' ∈ t.state.prompt.toList ↔ t.state.session.history.canRedo) := by
  intro turns after
  have hcourse := course_turns client (start config) (inputLines h.input) h
  refine ⟨hcourse.output_eq, fun t ht => ?_⟩
  have hprompting : Prompting t.state :=
    hcourse.forall_mem (fun _ _ _ hleads hs => hs.of_leads hleads) (prompting_start config) t ht
  rw [State.prompt, hprompting.shown_eq]
  exact arrow_mem_promptFor_iff t.state.session.history.flags

/-- A table is opened and taken back: the last of three prompts has the redo arrow alone. -/
theorem prompt_after_undo :
    let h : Host := { input := "table a\n.undo\n".toUTF8.toList }
    let turns := turns ⟨"http://a"⟩ (start { capacity := 2 }) (inputLines h.input) h
    turns.map (·.state.prompt) = ["tablesmith> ", "tablesmith ↶> ", "tablesmith ↷> "] ∧
      ∃ t ∈ turns, t.state.prompt = "tablesmith ↷> " ∧ t.state.session.history.canUndo = false ∧
        t.state.session.history.canRedo := by
  intro h ts
  have hprompts :
      ts.map (·.state.prompt) = ["tablesmith> ", "tablesmith ↶> ", "tablesmith ↷> "] := by
    decide +kernel
  obtain ⟨t, ht, hprompt⟩ : ∃ t ∈ ts, t.state.prompt = "tablesmith ↷> " := by
    rw [← List.mem_map, hprompts]
    simp
  obtain ⟨hundo, hredo⟩ := (prompts_tell_flags ⟨"http://a"⟩ { capacity := 2 } h).2 t ht
  refine ⟨hprompts, t, ht, hprompt, ?_, hredo.mp (by simp [hprompt])⟩
  rw [hprompt] at hundo
  simpa using hundo

end SchemaWorkbench.CommandLine.Repl
