import StateMachine.Proofs.Execution.Restore

/-!
# Snapshots and What They Restore

A snapshot lists the numbers of the stacked states and then that of the current state, so the
state that is current stands last. `Context.restore` takes the list apart again: it looks the
numbers of the stack up first and the last number after them. Both stages go from left to right,
so together they refuse what looking up the whole list would refuse.

## Conventions

* `Roster.Faithful` says that states and numbers belong together: a state is found under its
  number, and under no other.
* A number is known if some state has it. That the numbers `ids` belong to the states `states` is
  written `ids.map roster.ofId? = states.map some`.

## Main results

* `Roster.faithful_of_positions`: an enumeration that is numbered in order is faithful.
* `fst_restore`: the two stages of a restore refuse what one would.
* `lookupAll_eq_error_iff`: a list of numbers is refused for the **leftmost** number that is not
  known.
* `snapshot_restore_inverse`: a snapshot restores the state and the stack that it was taken of,
  and what can be restored is the snapshot of what comes of it.
-/

namespace StateMachine.Execution

variable {S : Type} {roster : Roster S}

/-! ### States and their numbers -/

namespace Roster

/-- A state is found under its number, and under no other number. -/
structure Faithful (roster : Roster S) : Prop where
  ofId?_id : ∀ s, roster.ofId? (roster.id s) = some s
  id_of_ofId? : ∀ {i s}, roster.ofId? i = some s → roster.id s = i

/-- **An enumeration is faithful.** If a list has no state twice, and each state is numbered by its
position there, states and numbers belong together. -/
theorem faithful_of_positions (all : List S) (hnodup : all.Nodup)
    (hid : ∀ s, all[roster.id s]? = some s) (hofId : ∀ i, roster.ofId? i = all[i]?) :
    roster.Faithful := by
  refine ⟨fun s => (hofId _).trans (hid s), fun {i s} hi => ?_⟩
  rw [hofId] at hi
  obtain ⟨hlt, -⟩ := List.getElem?_eq_some_iff.mp hi
  exact ((List.getElem?_inj hlt hnodup).mp (hi.trans (hid s).symm)).symm

namespace Faithful

/-- The states of the numbers of states are these states. -/
theorem map_ofId? (h : roster.Faithful) (states : List S) :
    (states.map roster.id).map roster.ofId? = states.map some := by
  rw [List.map_map]
  exact List.map_congr_left fun s _ => h.ofId?_id s

/-- The numbers of the states of numbers are these numbers. -/
theorem map_id (h : roster.Faithful) {ids : List Nat} {states : List S}
    (hstates : ids.map roster.ofId? = states.map some) : states.map roster.id = ids := by
  induction ids generalizing states with
  | nil => rw [List.map_eq_nil_iff.mp hstates.symm, List.map_nil]
  | cons i rest ih =>
      cases states with
      | nil => cases hstates
      | cons s others =>
          obtain ⟨hi, hrest⟩ := List.cons.inj hstates
          rw [List.map_cons, h.id_of_ofId? hi, ih hrest]

end Faithful

end Roster

namespace Context

variable {c : Context S}

/-! ### Looking numbers up -/

/-- Known numbers are the numbers of states. -/
theorem known_iff {ids : List Nat} :
    (∀ i ∈ ids, ∃ s, roster.ofId? i = some s) ↔
      ∃ states : List S, ids.map roster.ofId? = states.map some := by
  induction ids with
  | nil => exact iff_of_true (by simp) ⟨[], rfl⟩
  | cons i rest ih =>
      rw [List.forall_mem_cons, ih]
      constructor
      · rintro ⟨⟨s, hs⟩, others, hothers⟩
        exact ⟨s :: others, by rw [List.map_cons, List.map_cons, hs, hothers]⟩
      · rintro ⟨states, hstates⟩
        cases states with
        | nil => cases hstates
        | cons s others =>
            obtain ⟨hs, hothers⟩ := List.cons.inj hstates
            exact ⟨⟨s, hs⟩, others, hothers⟩

/-- Looking numbers up is looking each of them up. -/
theorem lookupAll_eq_mapM (ids : List Nat) : lookupAll roster ids = ids.mapM (lookup roster) := by
  induction ids with
  | nil => rfl
  | cons id rest ih => rw [List.mapM_cons, lookupAll, ih]

/-- **Numbers are refused for the leftmost one that is not known.** -/
theorem lookupAll_eq_error_iff {ids : List Nat} {fault : Fault} :
    lookupAll roster ids = .error fault ↔
      ∃ before id after, ids = before ++ id :: after ∧
        (∀ i ∈ before, ∃ s, roster.ofId? i = some s) ∧ roster.ofId? id = none ∧
        fault = .unknownId id := by
  simp only [lookupAll_eq_mapM, mapM_eq_error_iff, lookup_eq_ok_iff, lookup_eq_error_iff]

/-- Numbers are looked up one after the other, so those of the stack come before the last. -/
theorem lookupAll_append_singleton (older : List Nat) (last : Nat) :
    lookupAll roster (older ++ [last]) = do
      let states ← lookupAll roster older
      let s ← lookup roster last
      return states ++ [s] := by
  rw [lookupAll_eq_mapM, lookupAll_eq_mapM, List.mapM_append]
  cases older.mapM (lookup roster) with
  | error fault => rfl
  | ok states => cases hlast : lookup roster last <;> simp [hlast]

/-! ### Restoring -/

/-- Nothing is restored from no numbers. -/
@[simp] theorem restore_nil : c.restore roster [] = (.error .emptyStack, c) :=
  rfl

/-- Known numbers are restored as the stack and the current state that they record. -/
theorem restore_known {older : List Nat} {last : Nat} {states : List S} {s : S}
    (hstack : older.map roster.ofId? = states.map some) (hlast : roster.ofId? last = some s) :
    c.restore roster (older ++ [last]) =
      (.ok (), { state? := some s, stack := states, debug := c.debug }) := by
  rw [restore_append, lookupAll_eq_ok_iff.mpr hstack, lookup_eq_ok_iff.mpr hlast]

/-- **Both stages of a restore are one.** Numbers are refused as looking all of them up would
refuse them. -/
theorem fst_restore {ids : List Nat} (hids : ids ≠ []) :
    (c.restore roster ids).1 = (fun _ => ()) <$> lookupAll roster ids := by
  obtain ⟨older, last, rfl⟩ := (List.eq_nil_or_concat' ids).resolve_left hids
  rw [lookupAll_append_singleton, restore_append]
  cases lookupAll roster older with
  | error fault => rfl
  | ok states => cases lookup roster last <;> rfl

/-- What can be restored is a list of known numbers, and not the empty list. -/
theorem restore_eq_ok_iff {ids : List Nat} :
    (c.restore roster ids).1 = .ok () ↔
      ids ≠ [] ∧ ∀ id ∈ ids, ∃ s, roster.ofId? id = some s := by
  by_cases hids : ids = []
  · subst hids
    simp
  · simp only [fst_restore hids, map_eq_ok_iff, lookupAll_eq_ok_iff, and_true, known_iff, ne_eq,
      hids, not_false_eq_true, true_and]

/-- A restore is refused for want of numbers, or for the leftmost number that is not known. -/
theorem restore_eq_error_iff {ids : List Nat} {fault : Fault} :
    (c.restore roster ids).1 = .error fault ↔
      (ids = [] ∧ fault = .emptyStack) ∨
        ∃ before id after, ids = before ++ id :: after ∧
          (∀ i ∈ before, ∃ s, roster.ofId? i = some s) ∧ roster.ofId? id = none ∧
          fault = .unknownId id := by
  by_cases hids : ids = []
  · subst hids
    simp [eq_comm]
  · simp only [fst_restore hids, map_eq_error_iff, lookupAll_eq_error_iff, hids, false_and,
      false_or]

/-! ### Snapshots -/

/-- A snapshot can be taken of every context in a state. -/
theorem snapshot_eq {s : S} (hs : c.state? = some s) :
    c.snapshot roster = .ok ((c.stack ++ [s]).map roster.id) := by
  unfold snapshot state
  rw [hs]
  rfl

/-- A snapshot is restored as it was taken, whatever context it is restored into. -/
theorem restore_snapshot (h : roster.Faithful) {a : Context S} (b : Context S) {s : S}
    (hs : a.state? = some s) :
    ∃ ids, a.snapshot roster = .ok ids ∧
      b.restore roster ids =
        (.ok (), { state? := some s, stack := a.stack, debug := b.debug }) := by
  refine ⟨_, snapshot_eq hs, ?_⟩
  rw [List.map_append]
  exact restore_known (h.map_ofId? a.stack) (h.ofId?_id s)

/-- What has been restored has the snapshot that it was restored from. -/
theorem snapshot_restore (h : roster.Faithful) {ids : List Nat}
    (hids : (c.restore roster ids).1 = .ok ()) :
    (c.restore roster ids).2.snapshot roster = .ok ids := by
  obtain ⟨hne, hknown⟩ := restore_eq_ok_iff.mp hids
  obtain ⟨older, last, rfl⟩ := (List.eq_nil_or_concat' ids).resolve_left hne
  obtain ⟨holder, hlast⟩ := List.forall_mem_append.mp hknown
  obtain ⟨states, hstates⟩ := known_iff.mp holder
  obtain ⟨s, hs⟩ := hlast last List.mem_cons_self
  rw [restore_known hstates hs, snapshot_eq rfl, List.map_append, h.map_id hstates,
    List.map_singleton, h.id_of_ofId? hs]

/-- **Snapshot and restore are inverse.** In a machine whose states and numbers belong together,
the snapshot of a context `a` in a state restores into every context `b` the state and the stack
of `a`, no state before that and no transition in flight, and leaves it to `b` whether to trace.
Conversely, just the lists of known numbers that are not empty are restored, and each of them is
the snapshot of what it is restored to; another list is refused for being empty, or for its
leftmost number that is not known. -/
theorem snapshot_restore_inverse (h : roster.Faithful) :
    (∀ (a b : Context S) (s : S), a.state? = some s →
      ∃ ids, a.snapshot roster = .ok ids ∧
        b.restore roster ids =
          (.ok (), { state? := some s, previous? := none, stack := a.stack, transition := "",
                     debug := b.debug })) ∧
    ∀ (b : Context S) (ids : List Nat),
      ((b.restore roster ids).1 = .ok () ↔
        ids ≠ [] ∧ ∀ id ∈ ids, ∃ s, roster.ofId? id = some s) ∧
      ((b.restore roster ids).1 = .ok () → (b.restore roster ids).2.snapshot roster = .ok ids) ∧
      ∀ fault, (b.restore roster ids).1 = .error fault ↔
        (ids = [] ∧ fault = .emptyStack) ∨
          ∃ before id after, ids = before ++ id :: after ∧
            (∀ i ∈ before, ∃ s, roster.ofId? i = some s) ∧ roster.ofId? id = none ∧
            fault = .unknownId id :=
  ⟨fun _ b _ hs => restore_snapshot h b hs,
    fun _ _ => ⟨restore_eq_ok_iff, snapshot_restore h, fun _ => restore_eq_error_iff⟩⟩

/-- The states `A` and `B` have the numbers of their positions. -/
theorem twoStates_faithful : twoStates.Faithful :=
  Roster.faithful_of_positions [false, true] (by decide)
    (fun s => by cases s <;> rfl) fun _ => rfl

/-- A machine in the state `B`, above `A` and `B`, has the snapshot `0, 1, 1`. A traced machine
that is in the middle of a transition takes it up as it was taken. -/
theorem twoStates_restores_snapshot :
    let a : Context Bool :=
      { state? := some true, previous? := some false, stack := [false, true],
        transition := "Go" }
    let b : Context Bool :=
      { state? := none, previous? := some true, stack := [true], transition := "Stay",
        debug := true }
    twoStates.Faithful ∧ a.state? = some true ∧ a.snapshot twoStates = .ok [0, 1, 1] ∧
      b.restore twoStates [0, 1, 1] =
        (.ok (), { state? := some true, previous? := none, stack := [false, true],
                   transition := "", debug := true }) := by
  intro a b
  refine ⟨twoStates_faithful, rfl, rfl, ?_⟩
  obtain ⟨ids, hids, hrestored⟩ := (snapshot_restore_inverse twoStates_faithful).1 a b true rfl
  obtain rfl : [0, 1, 1] = ids := Except.ok.inj hids
  exact hrestored

/-- A list of numbers is refused for its first unknown number, also where the last number is
unknown as well. -/
example : ((Context.start false).restore twoStates [1, 7, 0, 9]).1 = .error (.unknownId 7) := rfl

end Context

end StateMachine.Execution
