import SchemaWorkbench.Proofs.History.Run

/-!
# What observers are told

Every change of a history is announced to all its observers, once and with the flags after it: every
push, every clearing, and every undo or redo that returns a snapshot. An undo or a redo that returns
none announces nothing. So what an observer was told since it subscribed is the history of the
flags, and the last of it are the flags of now, since nothing but an announced change alters them.

Observers can subscribe at any time. They are numbered in the order in which they do, and one that
has not subscribed yet was told nothing, which is an invariant of the runs of a history.

## Main definitions

* `History.Step`, `History.follow`: runs with operations and subscriptions
* `History.announcement`, `History.announcements`: what an operation and a run announce
* `History.Regular`: the cursor is on a snapshot, and only observers were told something
* `History.Informed`: the last flags that an observer knows of are those of now

## Main results

* `History.OnSnapshot.notices_perform`: an operation tells all observers what it announces
* `History.record_follow`: the record of an observer grows by the announcements of a run
* `History.Informed.perform`: every operation keeps the observers informed
* `History.record_since_subscription`: the record of an observer is what was announced since it
  subscribed
-/

namespace SchemaWorkbench

namespace History

variable {α : Type}

/-! ## Runs with subscriptions -/

/-- A step of a run: one more observer, or an operation. -/
inductive Step (α : Type) where
  | subscribe
  | perform (op : Op α)

/-- The step is a subscription. -/
def Step.isSubscription : Step α → Bool
  | .subscribe => true
  | .perform _ => false

/-- The history after a step. -/
def take (h : History α) : Step α → History α
  | .subscribe => h.subscribe
  | .perform op => (h.perform op).2

/-- The history after a run. -/
def follow (h : History α) (steps : List (Step α)) : History α :=
  steps.foldl take h

/-- An operation that returns this did something: it was a push, a clearing, or an undo or a redo
that returned a snapshot. -/
def Op.didSomething (reply : Option α) : Op α → Bool
  | .push _ | .clear => true
  | .undo | .redo => reply.isSome

/-- What an operation that does something announces: whether there is something to undo and
something to redo after it. -/
def announcement (h : History α) (op : Op α) : Option Flags :=
  if op.didSomething (h.perform op).1 then
    some ⟨(h.perform op).2.canUndo, (h.perform op).2.canRedo⟩
  else
    none

/-- What the operations of a run announce, in order. -/
def announcements (h : History α) : List (Step α) → List Flags
  | [] => []
  | .subscribe :: steps => announcements h.subscribe steps
  | .perform op :: steps => (h.announcement op).toList ++ announcements (h.perform op).2 steps

/-- Every one of so many observers is told the flags, in the order of subscription. -/
def round (observers : Nat) (flags : Flags) : List Notice :=
  (List.range observers).map (⟨·, flags⟩)

@[simp] theorem follow_nil (h : History α) : h.follow [] = h := rfl

@[simp] theorem follow_cons (h : History α) (step : Step α) (steps : List (Step α)) :
    h.follow (step :: steps) = (h.take step).follow steps := rfl

theorem follow_append (h : History α) (steps steps' : List (Step α)) :
    h.follow (steps ++ steps') = (h.follow steps).follow steps' :=
  List.foldl_append

variable {h : History α} {i : Nat}

/-! ## What an operation announces -/

@[simp] theorem observers_perform (h : History α) (op : Op α) :
    (h.perform op).2.observers = h.observers := by
  cases op with
  | push a => rfl
  | undo => simp only [perform, undo]; split <;> rfl
  | redo => simp only [perform, redo]; split <;> rfl
  | clear => rfl

/-- An operation that announces nothing does nothing. -/
theorem OnSnapshot.perform_of_announcement_eq_none (hrange : h.OnSnapshot) {op : Op α}
    (hnone : h.announcement op = none) : (h.perform op).2 = h := by
  have hnothing : op.didSomething (h.perform op).1 = false := by
    simpa [announcement] using hnone
  cases op with
  | push a => contradiction
  | undo =>
    have hreply : h.undo.1 = none := by simpa [Op.didSomething, History.perform] using hnothing
    exact hrange.undo_of_eq_none hreply
  | redo =>
    have hreply : h.redo.1 = none := by simpa [Op.didSomething, History.perform] using hnothing
    exact redo_of_eq_none hreply
  | clear => contradiction

/-- An operation that announces something announces the flags after it. -/
theorem flags_of_announcement {op : Op α} {flags : Flags}
    (hflags : h.announcement op = some flags) : (h.perform op).2.flags = flags := by
  rw [announcement] at hflags
  split at hflags
  · exact Option.some.inj hflags
  · contradiction

/-- An operation that does something publishes the flags after it. -/
theorem notices_of_didSomething {op : Op α} (hdid : op.didSomething (h.perform op).1) :
    (h.perform op).2.notices = h.notices ++ round h.observers (h.perform op).2.flags := by
  cases op with
  | push a => rfl
  | undo =>
    rcases h.canUndo_eq_false_or with hu | ⟨c, hc⟩
    · rw [History.perform, undo_of_not_canUndo hu] at hdid
      contradiction
    · rw [History.perform, undo_of_cursor hc]
      rfl
  | redo =>
    cases hr : h.canRedo with
    | false =>
      rw [History.perform, redo_of_not_canRedo hr] at hdid
      contradiction
    | true =>
      rw [History.perform, redo, if_pos hr]
      rfl
  | clear => rfl

/-- **An operation tells all observers what it announces**, in the order of subscription. -/
theorem OnSnapshot.notices_perform (hrange : h.OnSnapshot) (op : Op α) :
    (h.perform op).2.notices =
      h.notices ++ (h.announcement op).elim [] (round h.observers) := by
  cases hannounced : h.announcement op with
  | none =>
    rw [hrange.perform_of_announcement_eq_none hannounced, Option.elim_none, List.append_nil]
  | some flags =>
    have hdid : op.didSomething (h.perform op).1 := by
      by_contra hnothing
      rw [announcement, if_neg hnothing] at hannounced
      contradiction
    rw [Option.elim_some, ← flags_of_announcement hannounced]
    exact notices_of_didSomething hdid

/-! ## What one observer is told -/

theorem record_append_round (h : History α) (observers : Nat) (flags : Flags) :
    record { h with notices := h.notices ++ round observers flags } i =
      h.record i ++ if i < observers then [flags] else [] := by
  have hround : (round observers flags).filter (·.observer == i) =
      ((List.range observers).filter (· == i)).map (⟨·, flags⟩) := List.filter_map
  rw [record, record, List.filter_append, List.map_append, hround, List.filter_beq,
    List.count_range]
  split <;> rfl

/-- An operation tells an observer what it announces. -/
theorem OnSnapshot.record_perform (hrange : h.OnSnapshot) (hi : i < h.observers) (op : Op α) :
    (h.perform op).2.record i = h.record i ++ (h.announcement op).toList := by
  have hrecord : (h.perform op).2.record i =
      record { h with notices := (h.perform op).2.notices } i := rfl
  rw [hrecord, hrange.notices_perform op]
  cases h.announcement op with
  | none => rw [Option.elim_none, List.append_nil, Option.toList_none, List.append_nil]
  | some flags => rw [Option.elim_some, record_append_round, if_pos hi, Option.toList_some]

/-- The last flags that an observer knows of are those of now, if it knew the opening flags when it
subscribed. -/
def Informed (h : History α) (i : Nat) (opening : Flags) : Prop :=
  (h.record i).getLast?.getD opening = h.flags

/-- **Every operation keeps the observers informed.** -/
theorem Informed.perform {opening : Flags} (hinformed : h.Informed i opening)
    (hrange : h.OnSnapshot) (hi : i < h.observers) (op : Op α) :
    (h.perform op).2.Informed i opening := by
  cases hannounced : h.announcement op with
  | none => rwa [hrange.perform_of_announcement_eq_none hannounced]
  | some flags =>
    rw [Informed, hrange.record_perform hi, hannounced, Option.toList_some, List.getLast?_concat,
      Option.getD_some, flags_of_announcement hannounced]

/-! ## Runs -/

/-- The cursor is on a snapshot, and nobody was told something but the observers. -/
structure Regular (h : History α) : Prop where
  onSnapshot : h.OnSnapshot
  observer_lt : ∀ n ∈ h.notices, n.observer < h.observers

theorem regular_withCapacity (c : Nat) : (withCapacity (α := α) c).Regular where
  onSnapshot _ hc := by contradiction
  observer_lt _ hn := by contradiction

theorem Regular.take (hreg : h.Regular) (step : Step α) : (h.take step).Regular := by
  cases step with
  | subscribe => exact ⟨hreg.onSnapshot, fun n hn => Nat.lt_succ_of_lt (hreg.observer_lt n hn)⟩
  | perform op =>
    refine ⟨hreg.onSnapshot.perform op, fun n hn => ?_⟩
    rw [History.take, observers_perform]
    rw [History.take, hreg.onSnapshot.notices_perform op] at hn
    rcases List.mem_append.mp hn with hn | hn
    · exact hreg.observer_lt n hn
    · cases hannounced : h.announcement op with
      | none =>
        rw [hannounced] at hn
        contradiction
      | some flags =>
        rw [hannounced, Option.elim_some, round] at hn
        obtain ⟨i, hi, rfl⟩ := List.mem_map.mp hn
        exact List.mem_range.mp hi

theorem Regular.follow (hreg : h.Regular) (steps : List (Step α)) : (h.follow steps).Regular := by
  induction steps generalizing h with
  | nil => exact hreg
  | cons step steps ih => exact ih (hreg.take step)

/-- Who has not subscribed was told nothing. -/
theorem Regular.record_eq_nil (hreg : h.Regular) (hi : h.observers ≤ i) : h.record i = [] := by
  rw [record, List.map_eq_nil_iff, List.filter_eq_nil_iff]
  intro n hn
  have hlt := hreg.observer_lt n hn
  simp only [beq_iff_eq]
  omega

/-- There are as many observers as there were subscriptions. -/
theorem observers_follow (h : History α) (steps : List (Step α)) :
    (h.follow steps).observers = h.observers + steps.countP Step.isSubscription := by
  induction steps generalizing h with
  | nil => rfl
  | cons step steps ih =>
    rw [follow_cons, ih]
    cases step with
    | subscribe =>
      have hone : h.subscribe.observers = h.observers + 1 := rfl
      rw [List.countP_cons_of_pos rfl, take, hone]
      omega
    | perform op => rw [List.countP_cons_of_neg Bool.false_ne_true, take, observers_perform]

/-- The record of an observer grows by the announcements of a run. -/
theorem record_follow (hrange : h.OnSnapshot) (hi : i < h.observers) (steps : List (Step α)) :
    (h.follow steps).record i = h.record i ++ h.announcements steps := by
  induction steps generalizing h with
  | nil => rw [follow_nil, announcements, List.append_nil]
  | cons step steps ih =>
    cases step with
    | subscribe => exact ih (h := h.subscribe) hrange (Nat.lt_succ_of_lt hi)
    | perform op =>
      rw [follow_cons, take, ih (hrange.perform op) (by rwa [observers_perform]),
        hrange.record_perform hi, announcements, List.append_assoc]

/-- A run keeps the observers informed. -/
theorem Informed.follow {opening : Flags} (hinformed : h.Informed i opening)
    (hrange : h.OnSnapshot) (hi : i < h.observers) (steps : List (Step α)) :
    (h.follow steps).Informed i opening := by
  induction steps generalizing h with
  | nil => exact hinformed
  | cons step steps ih =>
    cases step with
    | subscribe => exact ih (h := h.subscribe) hinformed hrange (Nat.lt_succ_of_lt hi)
    | perform op =>
      exact ih (hinformed.perform hrange hi op) (hrange.perform op)
        (by rwa [take, observers_perform])

/-- **Observers are told the history of the flags.** Take a run in which an observer subscribes, and
any number of others before and after it. Its record is what the operations since its subscription
announced, in order: one entry for every push, every clearing and every undo or redo that returned a
snapshot, with whether there was something to undo and something to redo right after that operation.
The last entry, if there is one, are the flags of now. And whatever operation comes next tells what
it announces to every observer once, in the order of subscription, and tells nothing else. -/
theorem record_since_subscription (c : Nat) (before after : List (Step α)) :
    let subscribed := ((withCapacity c).follow before).subscribe
    let h := (withCapacity c).follow (before ++ .subscribe :: after)
    let i := before.countP Step.isSubscription
    let observers := i + 1 + after.countP Step.isSubscription
    h.record i = subscribed.announcements after ∧
      (∀ flags ∈ (h.record i).getLast?, flags = h.flags) ∧
      ∀ op, (h.perform op).2.notices =
        h.notices ++ (h.announcement op).elim [] (round observers) := by
  intro subscribed h i observers
  have hbefore : ((withCapacity c).follow before).observers = i := by
    rw [observers_follow]
    exact Nat.zero_add i
  have hreg : ((withCapacity c).follow before).Regular := (regular_withCapacity c).follow before
  have hrange : subscribed.OnSnapshot := hreg.onSnapshot
  have hnumber : subscribed.observers = i + 1 := congrArg (· + 1) hbefore
  have hi : i < subscribed.observers := by omega
  have hfollow : h = subscribed.follow after := follow_append _ before (.subscribe :: after)
  have hnothing : subscribed.record i = [] := hreg.record_eq_nil hbefore.le
  refine ⟨?_, fun flags hlast => ?_, fun op => ?_⟩
  · rw [hfollow, record_follow hrange hi, hnothing, List.nil_append]
  · -- The observer knew the flags when it subscribed, and was kept informed.
    have hopening : subscribed.Informed i subscribed.flags := by rw [Informed, hnothing]; rfl
    have hinformed := hopening.follow hrange hi after
    rw [← hfollow, Informed, hlast] at hinformed
    exact hinformed
  · have hrange' : h.OnSnapshot := ((regular_withCapacity c).follow _).onSnapshot
    rw [hrange'.notices_perform op, hfollow, observers_follow, hnumber]

/-- Of two observers of a history with room for two snapshots, the second subscribes after a push.
It is told of the push, the undo and the redo that follow, and not of the redo that does nothing. -/
theorem second_observer_record :
    let before : List (Step Nat) := [.subscribe, .perform (.push 1)]
    let after : List (Step Nat) :=
      [.perform (.push 2), .perform .undo, .perform .redo, .perform .redo]
    let h := (withCapacity 2).follow (before ++ .subscribe :: after)
    h.record 0 = [⟨false, false⟩, ⟨true, false⟩, ⟨false, true⟩, ⟨true, false⟩] ∧
      h.record 1 = [⟨true, false⟩, ⟨false, true⟩, ⟨true, false⟩] ∧
      (h.record 1).getLast? = some h.flags := by
  intro before after h
  obtain ⟨-, hlast, -⟩ := record_since_subscription 2 before after
  have hrecord : (h.record 1).getLast? = some ⟨true, false⟩ := rfl
  exact ⟨rfl, rfl, by rw [hrecord, hlast _ hrecord]⟩

end History

end SchemaWorkbench
