import StateMachine.Execution.Context
import StateMachine.Proofs.Except

/-!
# What a Refused Restore Leaves Behind

`Context.restore` looks the numbers of a snapshot up in two stages: first those of the
stack, then that of the current state, and it replaces the stack in between. So a refusal
in the first stage leaves the context alone, and a refusal in the second one does not.

## Main results

* `restore_error_cases`: the two ways in which a restore is refused, with the context that
  is left behind.
* `restore_atomic_iff`: a restore is **atomic** exactly when it is not the last number
  alone that is unknown, or the stack happens to be the one that was there before.
* `restore_unknown_last_not_atomic`: a refused restore that changes the context.

## Conventions

That the numbers `ids` belong to the states `states` is written
`ids.map roster.ofId? = states.map some`, which also says that there are as many.
-/

namespace StateMachine.Execution.Context

variable {S : Type} {roster : Roster S} {c : Context S}

/-- A number that is looked up with success has a state. -/
theorem lookup_eq_ok_iff {id : Nat} {s : S} :
    lookup roster id = .ok s ↔ roster.ofId? id = some s := by
  unfold lookup
  cases h : roster.ofId? id <;> simp

/-- Looking a number up fails for the numbers without a state, and names them. -/
theorem lookup_eq_error_iff {id : Nat} {fault : Fault} :
    lookup roster id = .error fault ↔ roster.ofId? id = none ∧ fault = .unknownId id := by
  unfold lookup
  cases h : roster.ofId? id <;> simp [eq_comm]

/-- Numbers are looked up with success exactly when all of them have states. -/
theorem lookupAll_eq_ok_iff {ids : List Nat} {states : List S} :
    lookupAll roster ids = .ok states ↔ ids.map roster.ofId? = states.map some := by
  induction ids generalizing states with
  | nil => cases states <;> simp [lookupAll]
  | cons id rest ih =>
      simp only [lookupAll, bind_eq_ok_iff, lookup_eq_ok_iff, ih, pure, Except.pure,
        Except.ok.injEq]
      constructor
      · rintro ⟨s, hs, others, hothers, rfl⟩
        rw [List.map_cons, List.map_cons, hs, hothers]
      · intro hmap
        cases states with
        | nil => cases hmap
        | cons s others =>
            simp only [List.map_cons, List.cons.injEq] at hmap
            exact ⟨s, hmap.1, others, hmap.2, rfl⟩

/-- The numbers of the stack are looked up before the last one is. -/
theorem restore_append (older : List Nat) (last : Nat) :
    c.restore roster (older ++ [last]) =
      match lookupAll roster older with
      | .error fault => (.error fault, c)
      | .ok stack =>
        match lookup roster last with
        | .error fault => (.error fault, { c with stack })
        | .ok s =>
          (.ok (), { c with stack, state? := some s, previous? := none, transition := "" }) := by
  cases hstack : lookupAll roster older with
  | error fault => simp [restore, hstack]
  | ok stack => cases hlast : lookup roster last <;> simp [restore, hstack, hlast]

/-- **How a restore is refused.** Either the context is as it was, or the last number alone
is unknown, and the states of the others have become the stack. -/
theorem restore_error_cases {ids : List Nat} {fault : Fault}
    (h : (c.restore roster ids).1 = .error fault) :
    (c.restore roster ids).2 = c ∨
      ∃ older last states, ids = older ++ [last] ∧
        older.map roster.ofId? = states.map some ∧ roster.ofId? last = none ∧
        (c.restore roster ids).2 = { c with stack := states } := by
  rcases List.eq_nil_or_concat' ids with rfl | ⟨older, last, rfl⟩
  · exact .inl rfl
  · rw [restore_append] at h ⊢
    cases hstack : lookupAll roster older with
    | error stackFault => exact .inl rfl
    | ok states =>
        cases hlast : lookup roster last with
        | error lastFault =>
            exact .inr ⟨older, last, states, rfl, lookupAll_eq_ok_iff.mp hstack,
              (lookup_eq_error_iff.mp hlast).1, rfl⟩
        | ok s => simp [hstack, hlast] at h

/-- A refused restore leaves the transition in flight. -/
theorem transition_restore_error {ids : List Nat} {fault : Fault}
    (h : (c.restore roster ids).1 = .error fault) :
    (c.restore roster ids).2.transition = c.transition := by
  rcases restore_error_cases h with hsame | ⟨_, _, _, -, -, -, hleft⟩
  · rw [hsame]
  · rw [hleft]

/-- After any other, no transition is in flight. -/
theorem transition_restore {ids : List Nat} (h : (c.restore roster ids).1 = .ok ()) :
    (c.restore roster ids).2.transition = "" := by
  rcases List.eq_nil_or_concat' ids with rfl | ⟨older, last, rfl⟩
  · cases h
  · rw [restore_append] at h ⊢
    cases hstack : lookupAll roster older with
    | error fault => simp [hstack] at h
    | ok stack =>
        cases hlast : lookup roster last with
        | error fault => simp [hstack, hlast] at h
        | ok s => rfl

/-- A restore whose last number alone is unknown is refused with the stack replaced. -/
theorem restore_unknown_last {older : List Nat} {last : Nat} {states : List S}
    (hstack : older.map roster.ofId? = states.map some) (hlast : roster.ofId? last = none) :
    c.restore roster (older ++ [last]) =
      (.error (.unknownId last), { c with stack := states }) := by
  rw [restore_append, lookupAll_eq_ok_iff.mpr hstack, lookup_eq_error_iff.mpr ⟨hlast, rfl⟩]

/-- **When a refused restore changes nothing.** This is so exactly when no list of known
numbers other than those of the present stack stands before an unknown last number. -/
theorem restore_atomic_iff (roster : Roster S) (c : Context S) (ids : List Nat) :
    (∀ fault, (c.restore roster ids).1 = .error fault → (c.restore roster ids).2 = c) ↔
      ∀ older last states, ids = older ++ [last] →
        older.map roster.ofId? = states.map some → roster.ofId? last = none →
        states = c.stack := by
  constructor
  · rintro hatomic older last states rfl hstack hlast
    have hrefused := restore_unknown_last (c := c) hstack hlast
    have hsame := hatomic (.unknownId last) (congrArg Prod.fst hrefused)
    rw [hrefused] at hsame
    exact congrArg Context.stack hsame
  · intro hstack fault hfault
    rcases restore_error_cases hfault with
      hsame | ⟨older, last, states, hids, hmap, hlast, hleft⟩
    · exact hsame
    · rw [hleft, hstack older last states hids hmap hlast]

/-- The numbers of two states, `A` and `B`. -/
def twoStates : Roster Bool where
  name s := if s then "B" else "A"
  id := Bool.toNat
  ofId? id := [false, true][id]?

/-- In a machine with the states `A` and `B`, the numbers `1` and `7` are refused because of
the `7`, and yet `B` is on the stack afterwards. -/
theorem restore_unknown_last_not_atomic :
    (start false).restore twoStates [1, 7] =
        (.error (.unknownId 7), { state? := some false, stack := [true] }) ∧
      ¬ ∀ (c : Context Bool) (ids : List Nat) (fault : Fault),
        (c.restore twoStates ids).1 = .error fault → (c.restore twoStates ids).2 = c := by
  have hrefused : (start false).restore twoStates [1, 7] =
      (.error (.unknownId 7), { state? := some false, stack := [true] }) := rfl
  refine ⟨hrefused, fun hatomic => ?_⟩
  have hsame := hatomic (start false) [1, 7] (.unknownId 7) (congrArg Prod.fst hrefused)
  rw [hrefused] at hsame
  exact absurd (congrArg Context.stack hsame) (by decide)

end StateMachine.Execution.Context
