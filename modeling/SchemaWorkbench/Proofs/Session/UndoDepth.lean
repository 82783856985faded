import SchemaWorkbench.Proofs.Session.Snapshots

/-!
# How far back a session can go

A history of capacity `k` holds the current snapshot and up to `k - 1` before it, so that the last
`k - 1` of a row of successful edits can be undone, and then redone, whatever came before them.

The invariant is about the snapshot `n` places before the cursor. A push moves the cursor one place
further away from it, and as long as `n` stays below the capacity the snapshot is not among those
that go: however many snapshots are evicted, the cursor shifts with them.

## Main results

* `History.exists_snapshot_before_push`: a snapshot before the current one outlives a push
* `Session.exists_snapshot_before`: after a row of edits the working copies before them are there
* `Session.StandsAt.applyAll_undo`, `Session.StandsAt.applyAll_redo`: undo and redo in a row
* `Session.undo_redo_depth`: the last `k - 1` edits can be undone and redone
-/

namespace SchemaWorkbench

/-- A snapshot `n` places before the current one is `n + 1` places before it after a push, if there
is room for it. -/
theorem History.exists_snapshot_before_push {α : Type} {h : History α} {c n : Nat}
    (hcursor : h.cursor = some (c + n)) (hlt : c + n < h.states.length)
    (hroom : n + 1 < h.capacity) (a : α) :
    ∃ c', (h.push a).cursor = some (c' + (n + 1)) ∧ (h.push a).states[c']? = h.states[c]? := by
  have hlength : h.upToCursor.length = c + n + 1 := by
    rw [upToCursor_of_cursor hcursor, List.length_take]
    omega
  -- The snapshots that go are the first `excess` ones, and `c` is not among them.
  obtain ⟨excess, hexcess⟩ : ∃ excess, excess = c + n + 1 - (h.capacity - 1) := ⟨_, rfl⟩
  have hle : excess ≤ c := by omega
  refine ⟨c - excess, ?_, ?_⟩
  · rw [push_cursor, List.rtake, List.length_drop, hlength, ← hexcess]
    congr 1
    omega
  · rw [push_states, List.rtake, hlength, ← hexcess,
      List.getElem?_append_left (by rw [List.length_drop, hlength]; omega), List.getElem?_drop,
      Nat.add_sub_cancel' hle, upToCursor_of_cursor hcursor, List.getElem?_take_of_lt (by omega)]

namespace Session

open History

variable {s : Session} {c : Nat}

theorem capacity_apply (s : Session) (e : Edit) :
    (s.apply e).2.history.capacity = s.history.capacity := by
  rcases s.history_apply e with h | ⟨op, h⟩
  · rw [h]
  · rw [h, perform_capacity]

theorem capacity_applyAll (s : Session) (edits : List Edit) :
    (s.applyAll edits).history.capacity = s.history.capacity := by
  induction edits generalizing s with
  | nil => rfl
  | cons e edits ih => rw [applyAll_cons, ih, capacity_apply]

/-- After a row of successful edits the session stands on the last working copy, and the working
copy before the last `n` of them is the snapshot `n` places before that one. -/
theorem exists_snapshot_before (hs : s.StandsAt c) {edits : List Edit} (hedits : s.Succeeds edits)
    {n : Nat} (hn : n ≤ edits.length) (hroom : n < s.history.capacity) :
    ∃ c', (s.applyAll edits).StandsAt (c' + n) ∧ (s.applyAll edits).history.states[c']? =
      some (s.applyAll (edits.take (edits.length - n))).tables := by
  induction edits using List.reverseRecOn generalizing n with
  | nil =>
    obtain rfl : n = 0 := Nat.le_zero.mp hn
    exact ⟨c, hs, hs.snapshot⟩
  | append_singleton edits e ih =>
    -- The last edit pushes one snapshot, and so what was `n` places away is `n + 1` places away.
    obtain ⟨hedits, he, ho⟩ := succeeds_concat.mp hedits
    have hcommit := apply_of_isSuccess he ho
    rw [applyAll_append, applyAll_cons, applyAll_nil, hcommit]
    have hstands := standsAt_commit (s.applyAll edits) ((s.applyAll edits).apply e).2.tables
    cases n with
    | zero =>
      refine ⟨_, hstands, ?_⟩
      rw [Nat.sub_zero, List.take_length, applyAll_append, applyAll_cons, applyAll_nil, hcommit]
      exact hstands.snapshot
    | succ n =>
      rw [List.length_append, List.length_singleton] at hn ⊢
      obtain ⟨c', h', hbefore⟩ := ih hedits (n := n) (by omega) (by omega)
      obtain ⟨c'', hcursor, hsnapshot⟩ := exists_snapshot_before_push h'.cursor h'.lt
        (by rwa [capacity_applyAll]) ((s.applyAll edits).apply e).2.tables
      -- The place found in the pushed history is where the commit put the cursor.
      have hplace := Option.some.inj (hcursor.symm.trans hstands.cursor)
      refine ⟨c'', by rwa [hplace], ?_⟩
      rw [Nat.add_sub_add_right, List.take_append_of_le_length (Nat.sub_le _ _), ← hbefore]
      exact hsnapshot

/-! ## Undo and redo in a row -/

/-- So many undos move a session back by as many snapshots. -/
theorem StandsAt.applyAll_undo {n : Nat} (h : s.StandsAt (c + n)) :
    s.outcomes (.replicate n .undo) = .replicate n (.moved true) ∧
      (s.applyAll (.replicate n .undo)).StandsAt c ∧
      (s.applyAll (.replicate n .undo)).history.states = s.history.states := by
  induction n generalizing s with
  | zero => exact ⟨rfl, h, rfl⟩
  | succ n ih =>
    obtain ⟨hmoved, hstands, hstates⟩ := h.undo
    obtain ⟨houtcomes, hstands', hstates'⟩ := ih hstands
    refine ⟨?_, hstands', hstates'.trans hstates⟩
    rw [List.replicate_succ, outcomes, List.replicate_succ, apply, hmoved]
    exact congrArg _ houtcomes

/-- So many redos move a session forward by as many snapshots, if they are there. -/
theorem StandsAt.applyAll_redo {n : Nat} (h : s.StandsAt c)
    (hlt : c + n < s.history.states.length) :
    s.outcomes (.replicate n .redo) = .replicate n (.moved true) ∧
      (s.applyAll (.replicate n .redo)).StandsAt (c + n) ∧
      (s.applyAll (.replicate n .redo)).history.states = s.history.states := by
  induction n generalizing s c with
  | zero => exact ⟨rfl, h, rfl⟩
  | succ n ih =>
    obtain ⟨hmoved, hstands, hstates⟩ := h.redo (by omega)
    obtain ⟨houtcomes, hstands', hstates'⟩ := ih hstands (by rw [hstates]; omega)
    rw [Nat.add_right_comm] at hstands'
    refine ⟨?_, hstands', hstates'.trans hstates⟩
    rw [List.replicate_succ, outcomes, List.replicate_succ, apply, hmoved]
    exact congrArg _ houtcomes

/-- Where a session stands, its working copy is the snapshot. -/
theorem StandsAt.tables_eq (h : s.StandsAt c) {tables : Schema}
    (hsnapshot : s.history.states[c]? = some tables) : s.tables = tables :=
  Option.some.inj (h.snapshot.symm.trans hsnapshot)

/-- **How far back a session can go.** Take a session that was started on a history of capacity `k`,
edited, undone and redone in any way without clearing the history, and then a row of successful
edits. Of these the last `n` can be undone, for every `n` up to `k - 1`: each undo succeeds, and
they lead to the working copy before these edits. And `n` redos after that succeed and lead to the
working copy after the last edit. The snapshots stay as they are all the time. -/
theorem undo_redo_depth (h : History Schema) (prior edits : List Edit) (n : Nat)
    (hprior : .clearHistory ∉ prior) (hedits : ((start h).applyAll prior).Succeeds edits)
    (hn : n ≤ min edits.length (h.capacity - 1)) :
    let s := (start h).applyAll prior
    let edited := s.applyAll edits
    let undone := edited.applyAll (.replicate n .undo)
    let redone := undone.applyAll (.replicate n .redo)
    edited.outcomes (.replicate n .undo) = .replicate n (.moved true) ∧
      undone.tables = (s.applyAll (edits.take (edits.length - n))).tables ∧
      undone.history.states = edited.history.states ∧
      undone.outcomes (.replicate n .redo) = .replicate n (.moved true) ∧
      redone.tables = edited.tables ∧
      redone.history.states = edited.history.states := by
  intro s edited undone redone
  have hpos := h.capacity_pos
  have hcapacity : s.history.capacity = h.capacity := capacity_applyAll (start h) prior
  obtain ⟨c₀, hstart⟩ := standsAt_start h
  obtain ⟨c, hs⟩ := hstart.exists_applyAll hprior
  obtain ⟨c', hedited, hbefore⟩ :=
    exists_snapshot_before hs hedits (n := n) (by omega) (by rw [hcapacity]; omega)
  -- The snapshots before the last one are there, so that the undos find them one after the other.
  obtain ⟨hundos, hundone, hstates⟩ := hedited.applyAll_undo
  have hlt : c' + n < undone.history.states.length := by
    rw [hstates]
    exact hedited.lt
  obtain ⟨hredos, hredone, hstates'⟩ := hundone.applyAll_redo hlt
  refine ⟨hundos, hundone.tables_eq ?_, hstates, hredos, hredone.tables_eq ?_,
    hstates'.trans hstates⟩
  · rw [hstates]
    exact hbefore
  · rw [hstates', hstates]
    exact hedited.snapshot

/-- A session with room for three snapshots, in which a table was added and taken back: of three
more edits, the last two can be undone. -/
theorem undo_last_two_of_three :
    let s := (start (withCapacity 3)).applyAll
      [.addTable { name := "a" }, .addTable { name := "b" }, .undo]
    let edits : List Edit :=
      [.addTable { name := "c" }, .removeTable "a", .addTable { name := "d" }]
    s.Succeeds edits ∧ (s.applyAll edits).tables = [{ name := "c" }, { name := "d" }] ∧
      ((s.applyAll edits).applyAll [.undo, .undo]).tables = [{ name := "a" }, { name := "c" }] := by
  intro s edits
  have hedits : s.Succeeds edits := ⟨rfl, rfl, rfl, rfl, rfl, rfl, trivial⟩
  have hdepth := undo_redo_depth (withCapacity 3)
    [.addTable { name := "a" }, .addTable { name := "b" }, .undo] edits 2 (by simp) hedits
    (by decide)
  exact ⟨hedits, rfl, hdepth.2.1⟩

end Session

end SchemaWorkbench
