import SchemaWorkbench.CommandLine.Task
import SchemaWorkbench.Proofs.Client.Questions

/-!
# What a task does

A task is a dialogue that can fail, and then what would follow it does not happen. What a sequence
of two tasks does is known from its parts, whether or not the first one fails.

The tasks that only read are discreet: they send nothing and write no file, and if they warn of
something, the warning does not look like the report of a failure. The tasks that do no more than
read and ask leave the files and the output of every host as they were.

## Main definitions

* `Task.Quiet`: events without a request, a file that is written or the report of a failure
* `Task.Discreet`: tasks that only read, with what holds of their results

## Main results

* `Task.every_bind`, `Task.run_bind`: what a sequence of two tasks does, and does to a host
* `Task.Discreet.bind`: a sequence of discreet tasks is discreet
* `Task.keeps_readSchema`, `Task.keeps_renderSchema`: tasks that read and ask
* `Task.run_writeText_some`: the one step after which a file is written
-/

namespace SchemaWorkbench

open Dialogue (Event Every requestsOf warningsOf keeps_finish)

namespace CommandLine.Task

open Export (Format)

variable {α β : Type}

/-- The second task follows if the first one does not fail. -/
theorem every_bind (t : Task α) (f : α → Task β) (P : List Event → Except Failure β → Prop) :
    (t >>= f).run.Every P ↔ t.run.Every fun events r =>
      match r with
      | .ok a => (f a).run.Every fun events' b => P (events ++ events') b
      | .error e => P events (.error e) := by
  refine (Dialogue.every_bind t.run (ExceptT.bindCont f) P).trans ?_
  refine iff_of_eq (congrArg _ (funext fun events => funext fun r => ?_))
  cases r with
  | ok a => rfl
  | error e => exact congrArg (P · (.error e)) (List.append_nil events)

theorem every_ofDialogue {ε : Type} (failure : ε → Failure) (d : Dialogue (Except ε α))
    (P : List Event → Except Failure α → Prop) :
    (ofDialogue failure d).run.Every P ↔ d.Every fun events r => P events (r.mapError failure) := by
  refine (Dialogue.every_bind d _ P).trans ?_
  refine iff_of_eq (congrArg _ (funext fun events => funext fun r => ?_))
  exact congrArg (P · (r.mapError failure)) (List.append_nil events)

/-- The second task follows on the host that the first one leaves, if that one does not fail. -/
theorem run_bind (t : Task α) (f : α → Task β) (h : Host) : (t >>= f).run.run h =
    match t.run.run h with
    | (.ok a, h') => (f a).run.run h'
    | (.error e, h') => (.error e, h') := by
  refine (Dialogue.run_bind t.run (ExceptT.bindCont f) h).trans ?_
  obtain ⟨r, h'⟩ := t.run.run h
  cases r <;> rfl

theorem run_ofDialogue {ε : Type} (failure : ε → Failure) (d : Dialogue (Except ε α)) (h : Host) :
    (ofDialogue failure d).run.run h = ((d.run h).1.mapError failure, (d.run h).2) :=
  Dialogue.run_bind d _ h

/-! ## Requests of a task -/

/-- The requests of a task are those of its first part, if the second part sends none. -/
theorem sends_bind {t : Task α} {f : α → Task β} {requests : List Request}
    (ht : t.run.Sends requests) (hf : ∀ a, (f a).run.Sends []) : (t >>= f).run.Sends requests := by
  refine (every_bind t f _).mpr (ht.mono fun events r hfirst => ?_)
  -- If the first task fails, it has sent all its requests before that.
  cases r with
  | ok a =>
    refine (hf a).mono fun events' b hsecond => ?_
    rw [Dialogue.requestsOf_append, hfirst, hsecond, List.append_nil]
  | error e => exact hfirst

theorem sends_writeText (output : Option String) (text : String) :
    (writeText output text).run.Sends [] := by
  cases output with
  | none => rfl
  | some path => exact sends_bind ⟨fun fault => rfl, rfl⟩ fun _ => rfl

/-! ## Discreet tasks -/

/-- Nothing was sent, no file was written, and if something was warned of, the first warning does
not begin like the report of a failure. -/
structure Quiet (events : List Event) : Prop where
  sent : requestsOf events = []
  wrote : ∀ path text, .wrote path text ∉ events
  warned : (warningsOf events).toList.head? ≠ some '✗'

theorem quiet_nil : Quiet [] := ⟨rfl, fun _ _ => List.not_mem_nil, fun h => by contradiction⟩

theorem Quiet.append {events events' : List Event} (h : Quiet events) (h' : Quiet events') :
    Quiet (events ++ events') where
  sent := by rw [Dialogue.requestsOf_append, h.sent, h'.sent, List.append_nil]
  wrote path text hmem := by
    rcases List.mem_append.mp hmem with hmem | hmem
    · exact h.wrote path text hmem
    · exact h'.wrote path text hmem
  warned := by
    rw [Dialogue.warningsOf_append, String.toList_append, List.head?_append]
    cases hhead : (warningsOf events).toList.head? with
    | none => exact h'.warned
    | some c => rw [Option.some_or, ← hhead]; exact h.warned

/-- Whatever the task is answered, it is quiet, and its result satisfies `P` if it does not fail. -/
def Discreet (t : Task α) (P : α → Prop) : Prop :=
  t.run.Every fun events r => Quiet events ∧ ∀ a, r = .ok a → P a

theorem Discreet.bind {t : Task α} {f : α → Task β} {P : α → Prop} {Q : β → Prop}
    (ht : t.Discreet P) (hf : ∀ a, P a → (f a).Discreet Q) : (t >>= f).Discreet Q := by
  refine (every_bind t f _).mpr (ht.mono ?_)
  rintro events r ⟨hquiet, hresult⟩
  cases r with
  | ok a =>
    refine (hf a (hresult a rfl)).mono ?_
    rintro events' b ⟨hquiet', hresult'⟩
    exact ⟨hquiet.append hquiet', hresult'⟩
  | error e => exact ⟨hquiet, fun b hb => by contradiction⟩

theorem discreet_pure {a : α} {P : α → Prop} (ha : P a) : (pure a : Task α).Discreet P := by
  refine ⟨quiet_nil, ?_⟩
  rintro _ ⟨⟩
  exact ha

theorem discreet_throw (e : Failure) (P : α → Prop) : (throw e : Task α).Discreet P :=
  ⟨quiet_nil, fun a ha => by contradiction⟩

theorem discreet_ofExcept {ε : Type} (failure : ε → Failure) (r : Except ε α) :
    (ofExcept failure r).Discreet (r = .ok ·) := by
  refine ⟨quiet_nil, fun a ha => ?_⟩
  cases r with
  | ok b => exact congrArg _ (Except.ok.inj ha)
  | error e => contradiction

theorem discreet_put (text : String) : (put text).Discreet fun _ => True :=
  ⟨⟨rfl, fun path text hmem => by simp at hmem, fun h => by contradiction⟩, fun _ _ => trivial⟩

theorem discreet_readText (input : String) : (readText input).Discreet fun _ => True := by
  rw [readText]
  split
  · exact (every_ofDialogue _ _ _).mpr fun r => ⟨quiet_nil, fun _ _ => trivial⟩
  · exact (every_ofDialogue _ _ _).mpr fun r => ⟨quiet_nil, fun _ _ => trivial⟩

/-- A schema without tables is warned of, with another mark than that of a failure. -/
theorem discreet_readSchema (input : String) : (readSchema input).Discreet fun _ => True := by
  refine (discreet_readText input).bind fun text _ => ?_
  refine (discreet_ofExcept _ _).bind fun schema _ => ?_
  split
  · have hwarned : Quiet [.warned ("⚠ no tables found in " ++ input ++ "\n")] :=
      ⟨rfl, fun path text hmem => by simp at hmem, by simp [warningsOf]⟩
    exact Discreet.bind ⟨hwarned, fun _ _ => trivial⟩ fun _ _ => discreet_pure trivial
  · exact discreet_pure trivial

/-! ## Tasks that read and ask -/

theorem keeps_bind {t : Task α} {f : α → Task β} (ht : t.run.Keeps) (hf : ∀ a, (f a).run.Keeps) :
    (t >>= f).run.Keeps := by
  refine Dialogue.Keeps.bind (f := ExceptT.bindCont f) ht fun r => ?_
  cases r with
  | ok a => exact hf a
  | error e => exact keeps_finish _

theorem keeps_ofDialogue {ε : Type} (failure : ε → Failure) {d : Dialogue (Except ε α)}
    (hd : d.Keeps) : (ofDialogue failure d).run.Keeps :=
  Dialogue.Keeps.bind hd fun _ => keeps_finish _

theorem keeps_readText (input : String) : (readText input).run.Keeps := by
  rw [readText]
  split
  · exact keeps_ofDialogue _ Dialogue.keeps_readInput
  · exact keeps_ofDialogue _ (Dialogue.keeps_readFile input)

theorem keeps_readSchema (input : String) : (readSchema input).run.Keeps := by
  refine keeps_bind (keeps_readText input) fun text => ?_
  refine keeps_bind (keeps_finish _) fun schema => ?_
  -- The warning goes to the error output.
  split
  · exact keeps_bind (Dialogue.keeps_warn _ ()) fun _ => keeps_finish _
  · exact keeps_finish _

theorem keeps_renderSchema (client : Client) (d : Dialect) (format : Format) (s : Schema) :
    (renderSchema client d format s).run.Keeps := by
  rw [renderSchema]
  split
  · exact keeps_finish _
  · exact keeps_ofDialogue _ (client.keeps_generate s d)

/-! ## Writing a text -/

/-- The file is written, and then it is told; if it cannot be written, nothing is told. -/
theorem run_writeText_some (path text : String) (h : Host) :
    (writeText (some path) text).run.run h =
      match h.write path text with
      | (.ok (), h') => (.ok (), { h' with output := h'.output ++ ("✓ Wrote " ++ path ++ "\n") })
      | (.error fault, h') => (.error ⟨"Failed to write " ++ path, some fault.message⟩, h') := by
  rw [writeText, run_bind, run_ofDialogue, Dialogue.run]
  obtain ⟨r, h'⟩ := h.write path text
  cases r <;> rfl

end CommandLine.Task

end SchemaWorkbench
