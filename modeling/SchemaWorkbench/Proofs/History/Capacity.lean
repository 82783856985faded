import SchemaWorkbench.Proofs.History.Zipper

/-!
# Two histories of different capacity

A history with less room behaves like one with more room, as long as it can go back as far as it is
asked to. The two drop their oldest snapshots at different times, so that neither their lengths nor
their cursors agree; what agrees is everything from the cursor to the newest snapshot.

Seen as zippers they have the same present and the same future, and the past of the smaller one is
the end of the past of the larger one. A push cuts both pasts, the smaller one at least as short.
An undo on an empty past is the one step that could separate the two.

## Main definitions

* `History.fromNewest`: how far the cursor is from the newest snapshot
* `Zipper.Trails`: one zipper is like another, with a past that begins later

## Main results

* `Zipper.Trails.perform`, `Zipper.Trails.run`: operations keep two zippers alike
* `History.run_trails_of_le`: a smaller history is the end of a larger one
-/

namespace SchemaWorkbench

namespace History

variable {α : Type}

/-- How far the cursor is from the newest snapshot. -/
def fromNewest (h : History α) : Option Int :=
  h.cursor.map fun c => (h.states.length : Int) - 1 - c

/-- What is kept of the end of a list is an end of what is kept of a longer list, if no more is
kept. -/
theorem rtake_isSuffix_rtake {l₁ l₂ : List α} (h : l₁ <:+ l₂) {m n : Nat} (hmn : m ≤ n) :
    l₁.rtake m <:+ l₂.rtake n := by
  have hle := h.length_le
  -- Both are ends of the longer list, and so the shorter one is an end of the other.
  refine List.suffix_of_suffix_length_le ((List.drop_suffix _ _).trans h) (List.drop_suffix _ _) ?_
  simp only [List.rtake, List.length_drop]
  omega

namespace Zipper

/-- The zippers have the same present and the same future, and the past of the first is an end of
the past of the second. -/
structure Trails (z₁ z₂ : Zipper α) : Prop where
  past : z₁.past <:+ z₂.past
  present : z₁.present = z₂.present
  future : z₁.future = z₂.future

namespace Trails

variable {z₁ z₂ : Zipper α} {k₁ k₂ : Nat}

theorem refl (z : Zipper α) : Trails z z := ⟨List.suffix_rfl, rfl, rfl⟩

/-! ## The operations -/

theorem push (t : Trails z₁ z₂) (hle : k₁ ≤ k₂) (a : α) :
    Trails (z₁.push k₁ a) (z₂.push k₂ a) where
  past := by
    refine rtake_isSuffix_rtake ?_ (Nat.sub_le_sub_right hle 1)
    obtain ⟨dropped, hpast⟩ := t.past
    exact ⟨dropped, by rw [← List.append_assoc, hpast, t.present]⟩
  present := rfl
  future := rfl

/-- An undo keeps the two alike, unless it succeeds on the second zipper alone. -/
theorem undo (t : Trails z₁ z₂) (hboth : z₁.undo.1 = none → z₂.undo.1 = none) :
    Trails z₁.undo.2 z₂.undo.2 ∧ z₁.undo.1 = z₂.undo.1 := by
  obtain ⟨dropped, hpast⟩ := t.past
  rcases List.eq_nil_or_concat z₁.past with hnil | ⟨past, a, hconcat⟩
  · -- The first zipper does not move, and then the second one has no past either.
    have h₁ : z₁.undo = (none, z₁) := by simp [Zipper.undo, hnil]
    have h₂ : z₂.undo = (none, z₂) := by
      have hnone := hboth (by rw [h₁])
      rw [Zipper.undo] at hnone ⊢
      split at hnone
      · contradiction
      · rfl
    rw [h₁, h₂]
    exact ⟨t, rfl⟩
  · rw [List.concat_eq_append] at hconcat
    have hconcat₂ : z₂.past = (dropped ++ past) ++ [a] := by
      rw [← hpast, hconcat, List.append_assoc]
    rw [Zipper.undo, Zipper.undo, hconcat, hconcat₂, List.getLast?_concat, List.getLast?_concat]
    dsimp only
    rw [List.dropLast_concat, List.dropLast_concat, t.present, t.future]
    exact ⟨⟨⟨dropped, rfl⟩, rfl, rfl⟩, rfl⟩

theorem redo (t : Trails z₁ z₂) : Trails z₁.redo.2 z₂.redo.2 ∧ z₁.redo.1 = z₂.redo.1 := by
  rw [Zipper.redo, Zipper.redo, ← t.future]
  obtain ⟨dropped, hpast⟩ := t.past
  cases z₁.future with
  | nil => exact ⟨t, rfl⟩
  | cons a future =>
    exact ⟨⟨⟨dropped, by rw [← List.append_assoc, hpast, t.present]⟩, rfl, rfl⟩, rfl⟩

/-- **An operation keeps two zippers alike**, unless it is an undo that succeeds on the second one
alone, and returns the same on both. -/
theorem perform (t : Trails z₁ z₂) (hle : k₁ ≤ k₂) {op : Op α}
    (hboth : op = .undo → z₁.undo.1 = none → z₂.undo.1 = none) :
    Trails (z₁.perform k₁ op).2 (z₂.perform k₂ op).2 ∧
      (z₁.perform k₁ op).1 = (z₂.perform k₂ op).1 := by
  cases op with
  | push a => exact ⟨t.push hle a, rfl⟩
  | undo => exact t.undo (hboth rfl)
  | redo => exact t.redo
  | clear => exact ⟨refl _, rfl⟩

/-- A sequence of operations keeps two zippers alike and returns the same on both, unless an undo
succeeds on the second one alone. -/
theorem run (t : Trails z₁ z₂) (hle : k₁ ≤ k₂) {ops : List (Op α)}
    (hboth : ∀ a, (.undo, none, some a) ∉ ops.zip ((z₁.replies k₁ ops).zip (z₂.replies k₂ ops))) :
    (∀ done, done <+: ops → Trails (z₁.run k₁ done) (z₂.run k₂ done)) ∧
      z₁.replies k₁ ops = z₂.replies k₂ ops := by
  induction ops generalizing z₁ z₂ with
  | nil =>
    refine ⟨fun done hdone => ?_, rfl⟩
    rw [List.prefix_nil.mp hdone]
    exact t
  | cons op ops ih =>
    rw [replies, replies, List.zip_cons_cons, List.zip_cons_cons] at hboth
    have hfirst : op = .undo → z₁.undo.1 = none → z₂.undo.1 = none := by
      rintro rfl hnone
      -- If the undo returned something on the second zipper, it would head the list.
      by_contra hsome
      obtain ⟨a, ha⟩ := Option.ne_none_iff_exists'.mp hsome
      exact hboth a (List.mem_cons.mpr (.inl (by rw [Zipper.perform, Zipper.perform, hnone, ha])))
    obtain ⟨t', hreply⟩ := t.perform hle hfirst
    obtain ⟨hrun, hreplies⟩ := ih t' fun a ha => hboth a (List.mem_cons_of_mem _ ha)
    refine ⟨fun done hdone => ?_, by rw [replies, replies, hreply, hreplies]⟩
    rcases List.prefix_cons_iff.mp hdone with rfl | ⟨rest, rfl, hrest⟩
    · exact t
    · exact hrun rest hrest

/-! ## What is seen of two zippers that are alike -/

theorem toList_isSuffix (t : Trails z₁ z₂) : z₁.toList <:+ z₂.toList := by
  obtain ⟨dropped, hpast⟩ := t.past
  rw [toList, toList, t.present, ← t.future, ← hpast]
  cases z₂.present with
  | none => exact List.suffix_rfl
  | some a => exact ⟨dropped, by simp⟩

end Trails

/-- The distance to the newest snapshot is the length of the future. -/
theorem Represents.fromNewest_eq {h : History α} {z : Zipper α} (r : Represents h z) :
    h.fromNewest = z.present.map fun _ => (z.future.length : Int) := by
  rw [fromNewest, r.cursor, r.states, position, toList]
  cases z.present with
  | none => rfl
  | some a =>
    rw [Option.map_some, Option.map_some, List.length_append, List.length_cons]
    refine congrArg some ?_
    push_cast
    omega

end Zipper

/-- **Capacity only limits how far back one can go.** Perform the same operations on two empty
histories, the first asked to hold no more snapshots than the second, and let no undo return nothing
on the first and a snapshot on the second. Then after every step the snapshots of the first are the
last ones of the second, the cursors are equally far from the newest one, the current snapshots are
equal, and so is whether there is something to redo; and every operation returns the same on
both. -/
theorem run_trails_of_le {c₁ c₂ : Nat} (hle : c₁ ≤ c₂) {ops : List (Op α)}
    (hboth : ∀ a, (.undo, none, some a) ∉
      ops.zip (((withCapacity c₁).replies ops).zip ((withCapacity c₂).replies ops))) :
    (∀ done, done <+: ops →
      let h₁ := (withCapacity c₁).run done
      let h₂ := (withCapacity c₂).run done
      h₁.states <:+ h₂.states ∧ h₁.fromNewest = h₂.fromNewest ∧ h₁.current = h₂.current ∧
        h₁.canRedo = h₂.canRedo) ∧
      (withCapacity c₁).replies ops = (withCapacity c₂).replies ops := by
  have represents (c : Nat) : Zipper.Represents (withCapacity (α := α) c) {} :=
    Zipper.represents_empty rfl rfl
  -- The histories return what their zippers return, and the zippers are alike.
  rw [((represents c₁).run ops).2, ((represents c₂).run ops).2] at hboth ⊢
  have hcapacity : (withCapacity (α := α) c₁).capacity ≤ (withCapacity (α := α) c₂).capacity := by
    change max c₁ 1 ≤ max c₂ 1
    omega
  obtain ⟨htrails, hreplies⟩ := (Zipper.Trails.refl {}).run hcapacity hboth
  refine ⟨fun done hdone => ?_, hreplies⟩
  have t := htrails done hdone
  obtain ⟨r₁, -⟩ := (represents c₁).run done
  obtain ⟨r₂, -⟩ := (represents c₂).run done
  refine ⟨?_, ?_, ?_, ?_⟩
  · rw [r₁.states, r₂.states]
    exact t.toList_isSuffix
  · rw [r₁.fromNewest_eq, r₂.fromNewest_eq, t.present, t.future]
  · rw [r₁.current_eq, r₂.current_eq, t.present]
  · rw [r₁.canRedo_eq, r₂.canRedo_eq, Zipper.canRedo, Zipper.canRedo, t.future]

/-- Histories with room for two and for three snapshots: the first has dropped its oldest one, and
an undo leads to the same snapshot on both. -/
theorem undo_after_eviction :
    let ops : List (Op Nat) := [.push 1, .push 2, .push 3, .undo]
    let h₁ := (withCapacity 2).run ops
    let h₂ := (withCapacity 3).run ops
    ops.zip (((withCapacity 2).replies ops).zip ((withCapacity 3).replies ops)) =
        [(.push 1, none, none), (.push 2, none, none), (.push 3, none, none),
          (.undo, some 2, some 2)] ∧
      h₁.states = [2, 3] ∧ h₂.states = [1, 2, 3] ∧ h₁.cursor = some 0 ∧ h₂.cursor = some 1 ∧
      h₁.fromNewest = h₂.fromNewest ∧ h₁.current = h₂.current := by
  intro ops h₁ h₂
  have hreplies : ops.zip (((withCapacity 2).replies ops).zip ((withCapacity 3).replies ops)) =
      [(.push 1, none, none), (.push 2, none, none), (.push 3, none, none),
        (.undo, some 2, some 2)] := rfl
  have hboth : ∀ a, (.undo, none, some a) ∉
      ops.zip (((withCapacity 2).replies ops).zip ((withCapacity 3).replies ops)) := by
    simp [hreplies]
  obtain ⟨hsteps, -⟩ := run_trails_of_le (Nat.le_succ 2) hboth
  obtain ⟨-, hdistance, hcurrent, -⟩ := hsteps ops List.prefix_rfl
  exact ⟨hreplies, rfl, rfl, rfl, rfl, hdistance, hcurrent⟩

end History

end SchemaWorkbench
