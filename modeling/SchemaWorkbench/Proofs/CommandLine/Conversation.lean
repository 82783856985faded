import SchemaWorkbench.Proofs.CommandLine.Line

/-!
# Conversations, prompt by prompt

A conversation is a sequence of turns. Each begins with a prompt, at which a line is entered; the
last one may end the conversation instead, because the input ends or because its bytes spell no
line.

The turns are computed as the conversation is held, and that they are its course is shown once:
each begins in the state and with the host to which the one before it led. What is kept or added by
every turn is then kept or added by the conversation.

## Main definitions

* `Repl.Turn`, `Repl.Turn.finish`: a prompt with what is entered at it, and what that leads to
* `Repl.turns`: the turns of a conversation
* `Repl.Course`: turns that follow each other

## Main results

* `Repl.course_turns`: the turns of a conversation are its course
* `Repl.Course.forall_mem`: what every line keeps is kept by a conversation
* `Repl.Course.output_eq`: the output of a conversation is its prompts, each with its reply
-/

namespace SchemaWorkbench.CommandLine.Repl

/-- What is entered at a prompt. -/
inductive Entry where
  | line (text : String)
  /-- Bytes that spell no line. -/
  | fault (cause : LineFault)
  /-- Nothing more, since the input ends. -/
  | nothing

/-- A turn of a conversation: the state, the host with the prompt of the state printed, and what is
entered. -/
structure Turn where
  state : State
  host : Host
  entry : Entry

namespace Turn

/-- The turn in a state with a host that has so much input left after the entry. -/
def start (s : State) (h : Host) (rest : List UInt8) (entry : Entry) : Turn :=
  { state := s, host := { h with output := h.output ++ s.prompt, input := rest }, entry }

/-- The line that is entered, if one is. -/
def line? (t : Turn) : Option String :=
  match t.entry with
  | .line text => some text
  | _ => none

/-- What a turn leads to: a state, unless the conversation ends, and a host. -/
def finish (client : Client) (t : Turn) : Option State × Host :=
  match t.entry with
  | .line text => (enter client t.state text).run t.host
  | .fault cause => (none, { t.host with errors := t.host.errors ++ cause.report })
  | .nothing => (none, { t.host with output := t.host.output ++ farewell })

/-- What is printed after the prompt. -/
def reply (client : Client) (t : Turn) : String :=
  String.ofList ((t.finish client).2.output.toList.drop t.host.output.toList.length)

end Turn

/-- The turns of a conversation over lines of input with a host. -/
def turns (client : Client) (s : State) : List (List UInt8) → Host → List Turn
  | [], h => [.start s h [] .nothing]
  | bytes :: rest, h =>
    match lineOf bytes with
    | .error fault => [.start s h rest.flatten (.fault fault)]
    | .ok line =>
      let turn := Turn.start s h rest.flatten (.line line)
      turn :: match turn.finish client with
        | (none, _) => []
        | (some s, h) => if h.input = [] then [.start s h [] .nothing] else turns client s rest h

/-- The turns follow each other from a state and a host on, and lead to a last host. -/
inductive Course (client : Client) : State → Host → List Turn → Host → Prop
  | ends {s : State} {h h' : Host} {rest : List UInt8} {entry : Entry}
      (hend : (Turn.start s h rest entry).finish client = (none, h')) :
      Course client s h [.start s h rest entry] h'
  | goesOn {s s' : State} {h h' h'' : Host} {rest : List UInt8} {entry : Entry} {turns : List Turn}
      (hgo : (Turn.start s h rest entry).finish client = (some s', h'))
      (hcourse : Course client s' h' turns h'') :
      Course client s h (.start s h rest entry :: turns) h''

variable {client : Client} {s : State} {h h' : Host}

/-! ## One turn -/

/-- What one turn leads to, where it leads to a state: a line that leads there was entered. -/
theorem Turn.exists_line {t : Turn} {s' : State} (hgo : t.finish client = (some s', h')) :
    ∃ line, t.line? = some line ∧ (enter client t.state line).run t.host = (some s', h') := by
  rw [finish] at hgo
  split at hgo
  · rename_i line hentry
    exact ⟨line, by rw [line?, hentry], hgo⟩
  · simp at hgo
  · simp at hgo

/-- A turn only adds to the output. -/
theorem Turn.output_finish (client : Client) (t : Turn) :
    (t.finish client).2.output = t.host.output ++ t.reply client := by
  have hadds : ∃ text, (t.finish client).2.output = t.host.output ++ text := by
    rw [finish]
    split
    · obtain ⟨events, -, hrecorded⟩ := (every_enter client t.state _).exists_run t.host
      exact hrecorded.output
    · exact ⟨"", String.append_empty.symm⟩
    · exact ⟨farewell, rfl⟩
  obtain ⟨text, htext⟩ := hadds
  rw [reply, htext, String.toList_append, List.drop_left, String.ofList_toList]

/-! ## Conversations -/

theorem converse_cons (client : Client) (s : State) (bytes : List UInt8) (rest : List (List UInt8))
    (h : Host) : converse client s (bytes :: rest) h =
      match lineOf bytes with
      | .error fault =>
        (fault.exitCode, ((Turn.start s h rest.flatten (.fault fault)).finish client).2)
      | .ok line =>
        match (Turn.start s h rest.flatten (.line line)).finish client with
        | (none, h) => (0, h)
        | (some s, h) => if h.input = [] then (0, close s h) else converse client s rest h := rfl

/-- **The turns of a conversation are its course**, which leads to the host after it. -/
theorem course_turns (client : Client) (s : State) (lines : List (List UInt8)) (h : Host) :
    Course client s h (turns client s lines h) (converse client s lines h).2 := by
  have hclose (s : State) (h : Host) : Course client s h [.start s h [] .nothing] (close s h) :=
    .ends rfl
  -- The turns and the conversation recurse in the same way, over the lines that are left.
  induction lines generalizing s h with
  | nil => exact hclose s h
  | cons bytes rest ih =>
    rw [turns, converse_cons]
    cases lineOf bytes with
    | error fault => exact .ends rfl
    | ok line =>
      dsimp only
      rcases hfinish : (Turn.start s h rest.flatten (.line line)).finish client with ⟨_ | s', h'⟩
      · exact .ends hfinish
      · refine .goesOn hfinish ?_
        dsimp only
        -- A line that used up the rest of the input is followed by the last turn.
        split
        · exact hclose s' h'
        · exact ih s' h'

/-- What one turn leads to is what a line can make of its state. -/
theorem Turn.leads_of_finish {t : Turn} {s' : State} (hgo : t.finish client = (some s', h')) :
    ∃ line, t.line? = some line ∧ Leads t.state line s' := by
  obtain ⟨line, hline, henter⟩ := exists_line hgo
  obtain ⟨events, hleads, -⟩ := (every_enter client t.state line).exists_run t.host
  exact ⟨line, hline, hleads s' (by rw [henter]; rfl)⟩

/-- What every line keeps is kept by a conversation. -/
theorem Course.forall_mem {P : State → Prop} {ts : List Turn} (hcourse : Course client s h ts h')
    (hkeep : ∀ s line s', Leads s line s' → P s → P s') (hs : P s) : ∀ t ∈ ts, P t.state := by
  induction hcourse with
  | ends hend => exact List.forall_mem_singleton.mpr hs
  | goesOn hgo hcourse ih =>
    obtain ⟨line, -, hleads⟩ := Turn.leads_of_finish hgo
    exact List.forall_mem_cons.mpr ⟨hs, ih (hkeep _ line _ hleads hs)⟩

/-- **The output of a conversation is its prompts**, each followed by what is printed after it. -/
theorem Course.output_eq {ts : List Turn} (hcourse : Course client s h ts h') :
    h'.output = h.output ++ String.join (ts.map fun t => t.state.prompt ++ t.reply client) := by
  have hturn (s : State) (h : Host) (rest : List UInt8) (entry : Entry) :
      ((Turn.start s h rest entry).finish client).2.output =
        h.output ++ (s.prompt ++ (Turn.start s h rest entry).reply client) := by
    rw [Turn.output_finish, ← String.append_assoc]
    rfl
  induction hcourse with
  | @ends s h h' rest entry hend =>
    rw [List.map_singleton, String.join_cons, String.join_nil, String.append_empty]
    exact (congrArg (·.2.output) hend).symm.trans (hturn s h rest entry)
  | @goesOn s s' h h' h'' rest entry turns hgo hcourse ih =>
    have hfirst : h'.output = _ := (congrArg (·.2.output) hgo).symm.trans (hturn s h rest entry)
    rw [ih, hfirst, List.map_cons, String.join_cons, String.append_assoc]
    rfl

end SchemaWorkbench.CommandLine.Repl
