import SchemaWorkbench.Proofs.Host

/-!
# What a dialogue can do

What a dialogue does depends on what it is answered. `Dialogue.Every` says what holds whatever that
is, of everything that the dialogue does, as a list of events, and of its result. It is computed
along the dialogue, and along a sequence of two dialogues by `Dialogue.every_bind`, so that nothing
has to be said about a host as long as it does not matter.

A host answers in one of these ways, and keeps a record of the events: it gets the requests that
were sent, if there is no obstacle to their URLs, and shows the warnings on its error output, unless
a file that was written stands for that output.

## Main definitions

* `Dialogue.Event`: something that a dialogue does to its surroundings
* `Dialogue.Every`: what holds of all events and of the result, whatever is answered
* `Dialogue.requestsOf`, `Dialogue.warningsOf`: the requests and the warnings among events
* `Dialogue.Sends`: the requests of a dialogue, whatever is answered
* `Host.Reaches`: a request to a URL is sent
* `Host.Recorded`: what a host keeps of events
* `Dialogue.Keeps`: the dialogues that only read

## Main results

* `Dialogue.every_bind`: the events of a sequence are those of its parts
* `Dialogue.run_bind`: a host holds a sequence of dialogues one after the other
* `Dialogue.Every.exists_run`: a host answers in one of the ways, and records the events
-/

namespace SchemaWorkbench

namespace Dialogue

variable {α β : Type}

/-- Something that a dialogue does to its surroundings. -/
inductive Event where
  | printed (text : String)
  | warned (text : String)
  /-- The text of a file was replaced. -/
  | wrote (path text : String)
  | sent (request : Request)

/-- Whatever the dialogue is answered, `P` holds of everything that it does and of its result. -/
def Every : Dialogue α → (List Event → α → Prop) → Prop
  | finish a, P => P [] a
  | print text next, P => next.Every fun events a => P (.printed text :: events) a
  | warn text next, P => next.Every fun events a => P (.warned text :: events) a
  | isFile _ next, P => ∀ b, (next b).Every P
  | readFile _ next, P => ∀ r, (next r).Every P
  | writeFile path text next, P =>
    (∀ fault, (next (.error fault)).Every P) ∧
      (next (.ok ())).Every fun events a => P (.wrote path text :: events) a
  | readInput next, P => ∀ r, (next r).Every P
  | post request next, P => ∀ r, (next r).Every fun events a => P (.sent request :: events) a

/-! ## Sequences of dialogues -/

@[simp] theorem every_pure (a : α) (P : List Event → α → Prop) :
    (pure a : Dialogue α).Every P ↔ P [] a := Iff.rfl

/-- The events of a sequence are those of the first dialogue and then those of the second one. -/
theorem every_bind (d : Dialogue α) (f : α → Dialogue β) (P : List Event → β → Prop) :
    (d >>= f).Every P ↔
      d.Every fun events a => (f a).Every fun events' b => P (events ++ events') b := by
  change (d.bind f).Every P ↔ _
  -- What the first dialogue did so far becomes part of the predicate for the rest of it.
  induction d generalizing P with
  | finish a => rfl
  | print text next ih => exact ih _
  | warn text next ih => exact ih _
  | isFile path next ih => exact forall_congr' fun b => ih b P
  | readFile path next ih => exact forall_congr' fun r => ih r P
  | writeFile path text next ih =>
    exact and_congr (forall_congr' fun fault => ih (.error fault) P) (ih (.ok ()) _)
  | readInput next ih => exact forall_congr' fun r => ih r P
  | post request next ih => exact forall_congr' fun r => ih r _

theorem every_map (f : α → β) (d : Dialogue α) (P : List Event → β → Prop) :
    (f <$> d).Every P ↔ d.Every fun events a => P events (f a) := by
  refine (every_bind d (fun a => pure (f a)) P).trans ?_
  simp only [every_pure, List.append_nil]

theorem bind_finish (d : Dialogue α) : d.bind finish = d := by
  induction d with
  | finish a => rfl
  | print text next ih => exact congrArg (print text) ih
  | warn text next ih => exact congrArg (warn text) ih
  | isFile path next ih => exact congrArg (isFile path) (funext ih)
  | readFile path next ih => exact congrArg (readFile path) (funext ih)
  | writeFile path text next ih => exact congrArg (writeFile path text) (funext ih)
  | readInput next ih => exact congrArg readInput (funext ih)
  | post request next ih => exact congrArg (post request) (funext ih)

theorem bind_bind {γ : Type} (d : Dialogue α) (f : α → Dialogue β) (g : β → Dialogue γ) :
    (d.bind f).bind g = d.bind fun a => (f a).bind g := by
  induction d with
  | finish a => rfl
  | print text next ih => exact congrArg (print text) ih
  | warn text next ih => exact congrArg (warn text) ih
  | isFile path next ih => exact congrArg (isFile path) (funext ih)
  | readFile path next ih => exact congrArg (readFile path) (funext ih)
  | writeFile path text next ih => exact congrArg (writeFile path text) (funext ih)
  | readInput next ih => exact congrArg readInput (funext ih)
  | post request next ih => exact congrArg (post request) (funext ih)

instance : LawfulMonad Dialogue :=
  LawfulMonad.mk' Dialogue bind_finish (fun _ _ => rfl) bind_bind

/-- A host holds a sequence of dialogues one after the other. -/
theorem run_bind (d : Dialogue α) (f : α → Dialogue β) (h : Host) :
    (d >>= f).run h = (f (d.run h).1).run (d.run h).2 := by
  change (d.bind f).run h = _
  induction d generalizing h with
  | finish a => rfl
  | print text next ih => exact ih _
  | warn text next ih => exact ih _
  | isFile path next ih => exact ih _ h
  | readFile path next ih =>
    rw [bind, run, run]
    split
    · exact ih _ _
    · exact ih _ h
  | writeFile path text next ih =>
    rw [bind, run, run]
    exact ih _ _
  | readInput next ih => exact ih _ _
  | post request next ih =>
    rw [bind, run, run]
    split
    · exact ih _ h
    · exact ih _ _

/-- What holds of every outcome follows from what is stronger. -/
theorem Every.mono {d : Dialogue α} {P Q : List Event → α → Prop} (hd : d.Every P)
    (himp : ∀ events a, P events a → Q events a) : d.Every Q := by
  induction d generalizing P Q with
  | finish a => exact himp _ _ hd
  | print text next ih => exact ih hd fun _ _ => himp _ _
  | warn text next ih => exact ih hd fun _ _ => himp _ _
  | isFile path next ih => exact fun b => ih b (hd b) himp
  | readFile path next ih => exact fun r => ih r (hd r) himp
  | writeFile path text next ih =>
    exact ⟨fun fault => ih (.error fault) (hd.1 fault) himp, ih (.ok ()) hd.2 fun _ _ => himp _ _⟩
  | readInput next ih => exact fun r => ih r (hd r) himp
  | post request next ih => exact fun r => ih r (hd r) fun _ _ => himp _ _

/-- What holds of all events and all results holds of every outcome. -/
theorem every_of_forall {P : List Event → α → Prop} (hP : ∀ events a, P events a)
    (d : Dialogue α) : d.Every P := by
  induction d generalizing P with
  | finish a => exact hP _ _
  | print text next ih => exact ih fun _ _ => hP _ _
  | warn text next ih => exact ih fun _ _ => hP _ _
  | isFile path next ih => exact fun b => ih b hP
  | readFile path next ih => exact fun r => ih r hP
  | writeFile path text next ih =>
    exact ⟨fun fault => ih (.error fault) hP, ih (.ok ()) fun _ _ => hP _ _⟩
  | readInput next ih => exact fun r => ih r hP
  | post request next ih => exact fun r => ih r fun _ _ => hP _ _

/-! ## Requests and warnings -/

/-- The requests among events, in order. -/
def requestsOf (events : List Event) : List Request :=
  events.filterMap fun
    | .sent request => some request
    | _ => none

/-- The warnings among events, one after the other. -/
def warningsOf : List Event → String
  | [] => ""
  | .warned text :: events => text ++ warningsOf events
  | _ :: events => warningsOf events

@[simp] theorem requestsOf_append (events events' : List Event) :
    requestsOf (events ++ events') = requestsOf events ++ requestsOf events' :=
  List.filterMap_append

@[simp] theorem warningsOf_append (events events' : List Event) :
    warningsOf (events ++ events') = warningsOf events ++ warningsOf events' := by
  induction events with
  | nil => exact String.empty_append.symm
  | cons event events ih =>
    cases event with
    | warned text => simp only [List.cons_append, warningsOf, ih, String.append_assoc]
    | printed | wrote | sent => exact ih

/-- Whatever the dialogue is answered, these are the requests that it sends. -/
def Sends (d : Dialogue α) (requests : List Request) : Prop :=
  d.Every fun events _ => requestsOf events = requests

end Dialogue

/-! ## What a host keeps of events -/

namespace Host

open Dialogue (Event requestsOf warningsOf)

/-- A request to the URL is sent, and what comes back is up to the service. -/
def Reaches (h : Host) (url : String) : Prop :=
  h.obstacle url = none

/-- A host after some events: the same URLs have an obstacle, the requests were got if they were
sent, the warnings are on the error output if no file was written, and nothing that had been printed
is gone. -/
structure Recorded (h : Host) (events : List Event) (h' : Host) : Prop where
  obstacle : h'.obstacle = h.obstacle
  requests : (∀ r ∈ requestsOf events, h.Reaches r.url) →
    h'.requests = h.requests ++ requestsOf events
  errors : (∀ path text, Event.wrote path text ∉ events) → h'.errors = h.errors ++ warningsOf events
  output : ∃ text, h'.output = h.output ++ text

variable {h h' h'' : Host} {events events' : List Event}

theorem Recorded.trans (r : Recorded h events h') (r' : Recorded h' events' h'') :
    Recorded h (events ++ events') h'' where
  obstacle := r'.obstacle.trans r.obstacle
  requests hurls := by
    rw [Dialogue.requestsOf_append] at hurls ⊢
    have hfirst := r.requests fun q hq => hurls q (List.mem_append_left _ hq)
    have hsecond := r'.requests fun q hq => by
      rw [Reaches, r.obstacle]
      exact hurls q (List.mem_append_right _ hq)
    rw [hsecond, hfirst, List.append_assoc]
  errors hwrote := by
    have hfirst := r.errors fun path text hmem => hwrote path text (List.mem_append_left _ hmem)
    have hsecond := r'.errors fun path text hmem => hwrote path text (List.mem_append_right _ hmem)
    rw [hsecond, hfirst, Dialogue.warningsOf_append, String.append_assoc]
  output := by
    obtain ⟨text, hfirst⟩ := r.output
    obtain ⟨text', hsecond⟩ := r'.output
    exact ⟨text ++ text', by rw [hsecond, hfirst, String.append_assoc]⟩

/-- Without events nothing is recorded, on a host whose outputs, obstacles and requests are the
same. -/
theorem recorded_nil (hobstacle : h'.obstacle = h.obstacle)
    (hrequests : h'.requests = h.requests) (herrors : h'.errors = h.errors)
    (houtput : h'.output = h.output) : Recorded h [] h' where
  obstacle := hobstacle
  requests _ := hrequests.trans (List.append_nil _).symm
  errors _ := herrors.trans String.append_empty.symm
  output := ⟨"", houtput.trans String.append_empty.symm⟩

theorem recorded_printed (h : Host) (text : String) :
    Recorded h [.printed text] { h with output := h.output ++ text } where
  obstacle := rfl
  requests _ := (List.append_nil _).symm
  errors _ := String.append_empty.symm
  output := ⟨text, rfl⟩

theorem recorded_warned (h : Host) (text : String) :
    Recorded h [.warned text] { h with errors := h.errors ++ text } where
  obstacle := rfl
  requests _ := (List.append_nil _).symm
  errors _ := by rw [warningsOf, warningsOf, String.append_empty]
  output := ⟨"", String.append_empty.symm⟩

theorem recorded_read {path text : String} (hread : h.read path = .ok (text, h')) :
    Recorded h [] h' := by
  rcases eq_or_eq_dropInput_of_read hread with rfl | rfl
  · exact recorded_nil rfl rfl rfl rfl
  · exact recorded_nil rfl rfl rfl rfl

/-- After a file was written nothing is known of the error output. -/
theorem recorded_wrote {path text : String} (hobstacle : h'.obstacle = h.obstacle)
    (hrequests : h'.requests = h.requests) (houtput : ∃ text, h'.output = h.output ++ text) :
    Recorded h [.wrote path text] h' where
  obstacle := hobstacle
  requests _ := hrequests.trans (List.append_nil _).symm
  errors hwrote := absurd (List.mem_singleton_self _) (hwrote path text)
  output := houtput

theorem recorded_writeDevice {d : Device} {path text : String}
    (hwrite : h.writeDevice text d = .ok h') : Recorded h [.wrote path text] h' := by
  have hsame : ∃ text, h.output = h.output ++ text := ⟨"", String.append_empty.symm⟩
  cases d with
  | null | input | errors =>
    cases hwrite
    exact recorded_wrote rfl rfl hsame
  | full =>
    rw [writeDevice] at hwrite
    split at hwrite
    · cases hwrite
      exact recorded_wrote rfl rfl hsame
    · contradiction
  | output =>
    cases hwrite
    exact recorded_wrote rfl rfl ⟨text, rfl⟩

theorem recorded_write {path text : String} (hwrite : h.write path text = (.ok (), h')) :
    Recorded h [.wrote path text] h' := by
  obtain ⟨place, -, ⟨d, -, hdevice⟩ | ⟨-, rfl⟩⟩ := exists_place_of_write hwrite
  · exact recorded_writeDevice hdevice
  · exact recorded_wrote rfl rfl ⟨"", String.append_empty.symm⟩

/-- A file that was only begun is no event, since nothing of it shows on the outputs. -/
theorem recorded_failed_write {path text : String} {fault : FileFault}
    (hwrite : h.write path text = (.error fault, h')) : Recorded h [] h' := by
  rcases eq_or_replace_of_failed_write hwrite with rfl | ⟨place, n, -, -, rfl⟩
  · exact recorded_nil rfl rfl rfl rfl
  · exact recorded_nil rfl rfl rfl rfl

/-- Writing a file is no request. -/
theorem requests_of_write {path text : String} (hwrite : h.write path text = (.ok (), h')) :
    h'.requests = h.requests :=
  ((recorded_write hwrite).requests (by simp [Dialogue.requestsOf])).trans (List.append_nil _)

theorem recorded_sent (h : Host) (request : Request) :
    Recorded h [.sent request] { h with requests := h.requests ++ [request] } where
  obstacle := rfl
  requests _ := rfl
  errors _ := String.append_empty.symm
  output := ⟨"", String.append_empty.symm⟩

/-- A request to which there is an obstacle is not got, and so nothing is claimed of the
requests. -/
theorem recorded_lost {request : Request} (hlost : ¬ h.Reaches request.url) :
    Recorded h [.sent request] h where
  obstacle := rfl
  requests hurls := absurd (hurls request (List.mem_singleton_self _)) hlost
  errors _ := String.append_empty.symm
  output := ⟨"", String.append_empty.symm⟩

end Host

namespace Dialogue

open Host (Recorded)

variable {α : Type} {d : Dialogue α} {P : List Event → α → Prop}

/-- **A host answers in one of the ways, and records the events.** -/
theorem Every.exists_run (hd : d.Every P) (h : Host) :
    ∃ events, P events (d.run h).1 ∧ Recorded h events (d.run h).2 := by
  -- Each question gets the answer of the host, and the rest of the dialogue is held with the host
  -- after that.
  induction d generalizing P h with
  | finish a => exact ⟨[], hd, Host.recorded_nil rfl rfl rfl rfl⟩
  | print text next ih =>
    obtain ⟨events, hP, hrecorded⟩ := ih hd { h with output := h.output ++ text }
    exact ⟨_, hP, (Host.recorded_printed h text).trans hrecorded⟩
  | warn text next ih =>
    obtain ⟨events, hP, hrecorded⟩ := ih hd { h with errors := h.errors ++ text }
    exact ⟨_, hP, (Host.recorded_warned h text).trans hrecorded⟩
  | isFile path next ih => exact ih _ (hd _) h
  | readFile path next ih =>
    rw [run]
    split
    · rename_i hread
      obtain ⟨events, hP, hrecorded⟩ := ih _ (hd _) _
      exact ⟨events, hP, (Host.recorded_read hread).trans hrecorded⟩
    · exact ih _ (hd _) h
  | writeFile path text next ih =>
    obtain ⟨r, h', hwrite⟩ : ∃ r h', h.write path text = (r, h') := ⟨_, _, rfl⟩
    rw [run, hwrite]
    cases r with
    | ok _ =>
      obtain ⟨events, hP, hrecorded⟩ := ih _ hd.2 h'
      exact ⟨_, hP, (Host.recorded_write hwrite).trans hrecorded⟩
    | error fault =>
      -- The file may have changed, but that is nothing of which a record is kept.
      obtain ⟨events, hP, hrecorded⟩ := ih _ (hd.1 fault) h'
      exact ⟨events, hP, (Host.recorded_failed_write hwrite).trans hrecorded⟩
  | readInput next ih =>
    obtain ⟨events, hP, hrecorded⟩ := ih _ (hd h.inputText) h.dropInput
    have hdrop : Recorded h [] h.dropInput := Host.recorded_nil rfl rfl rfl rfl
    exact ⟨events, hP, hdrop.trans hrecorded⟩
  | post request next ih =>
    rw [run]
    split
    · rename_i fault hobstacle
      have hlost : ¬ h.Reaches request.url := by simp [Host.Reaches, hobstacle]
      obtain ⟨events, hP, hrecorded⟩ := ih _ (hd (.fault fault)) h
      exact ⟨_, hP, (Host.recorded_lost hlost).trans hrecorded⟩
    · obtain ⟨events, hP, hrecorded⟩ := ih _ (hd _) _
      exact ⟨_, hP, (Host.recorded_sent h request).trans hrecorded⟩

end Dialogue

/-! ## Dialogues that only read -/

namespace Dialogue

variable {α β : Type}

/-- The dialogue only reads: whatever the host, its files and its output are the same after it. -/
def Keeps (d : Dialogue α) : Prop :=
  ∀ h, Host.Kept h (d.run h).2

theorem keeps_finish (a : α) : (finish a).Keeps := Host.Kept.refl

theorem Keeps.bind {d : Dialogue α} {f : α → Dialogue β} (hd : d.Keeps) (hf : ∀ a, (f a).Keeps) :
    (d >>= f).Keeps := by
  intro h
  rw [run_bind]
  exact (hd h).trans (hf _ _)

theorem keeps_warn (text : String) (a : α) : (warn text (finish a)).Keeps :=
  fun _ => ⟨rfl, rfl, rfl, rfl, rfl, rfl, rfl⟩

theorem keeps_isFile (path : String) : (isFile path finish).Keeps := Host.Kept.refl

theorem keeps_readInput : (readInput finish).Keeps :=
  fun _ => ⟨rfl, rfl, rfl, rfl, rfl, rfl, rfl⟩

theorem keeps_readFile (path : String) : (readFile path finish).Keeps := by
  intro h
  rw [run]
  split
  · rename_i hread
    exact .of_read hread
  · exact .refl h

theorem keeps_post (request : Request) (f : Reply → α) :
    (post request fun reply => finish (f reply)).Keeps := by
  intro h
  rw [run]
  split
  · exact .refl h
  · exact ⟨rfl, rfl, rfl, rfl, rfl, rfl, rfl⟩

end Dialogue

end SchemaWorkbench
