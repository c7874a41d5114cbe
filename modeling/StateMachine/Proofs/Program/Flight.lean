import StateMachine.Proofs.Execution.Restore
import StateMachine.Proofs.Program.Names
import StateMachine.Proofs.Program.Replay

/-!
# Transitions in Flight

The machine bears the name of a transition while it is called, and gives it up when the call is
over, whether the transition was handled or refused. A panic goes past the place where the name
is given up. So the name stays, although the transition has been completed, until another call
gives up its own or a snapshot is restored.

## Proof strategy

A call names its transition at once, and nothing on the way to its end names another one, except
what it issues in turn (`Host.context_of_ends`). So a call that panics bears its own name, or that
of a call made on its way, by induction on the calls. It is the name of a method, since validation
lets a guard issue no other, and no method has an empty name.

## Conventions

* No part of the host touches the machine. Between two calls the owner may change in any way.
* `H.Runs p last c` follows the calls from the start to the context `c`. `last` is how the last
  call ended that named a transition or took up a snapshot.

## Main results

* `Host.Invokes.transition_eq_empty`: a call that does not panic leaves no name.
* `Host.Invokes.exists_panicked`: one that does leaves the name of a call that panicked.
* `Host.Runs.transition_eq_empty_iff`: **between two calls, there is a name exactly if the last
  transition panicked**.
-/

namespace StateMachine

open Program Execution Run

/-! ### Names of methods -/

namespace Program

/-- The program has a method for the transition `name`. -/
def HasMethod (p : Program) (name : String) : Prop :=
  ∃ method ∈ p.methods, method.transition = name

end Program

section

variable {v : Validated} {o : OutputOptions} {p : Program} {name : String}

/-- There are methods for the transitions that a guard may issue. -/
theorem Validated.Makes.hasMethod_iff (hmakes : v.Makes o p) :
    p.HasMethod name ↔ v.machine.IsIssuable name := by
  have hnames : p.HasMethod name ↔ name ∈ v.machine.methodNames := by
    rw [← hmakes.map_transition_methods, List.mem_map]
    rfl
  rw [hnames, ← Machine.mem_issuableNames_iff, Machine.issuableNames, Machine.methodNames]
  simp only [List.mem_map, List.mem_filter, decide_eq_true_eq]
  constructor
  · rintro ⟨t, ⟨ht, hdefault⟩, rfl⟩
    exact ⟨⟨t, ht, rfl⟩, hdefault⟩
  · rintro ⟨⟨t, ht, rfl⟩, hdefault⟩
    exact ⟨t, ⟨ht, hdefault⟩, rfl⟩

/-- A method has a name that can be read. -/
theorem Program.HasMethod.ne_empty (hmakes : v.Makes o p) (h : p.HasMethod name) : name ≠ "" := by
  obtain ⟨method, hmem, rfl⟩ := h
  obtain ⟨ts, -, hok⟩ := Method.ofMachine_eq_ok_iff.mp hmakes.methods
  obtain ⟨t, -, hmethod⟩ := (mem_of_mapM_eq_ok hok).mp hmem
  have hread := Method.reading?_of_ofTransition hmethod
  intro hempty
  have hnone : Rust.Ident.reading? "" = none := by decide +kernel
  rw [hempty, hnone] at hread
  cases hread

end

namespace Program

section

variable {O V : Type} {H : Host O V} {v : Validated} {o : OutputOptions} {p : Program}
  {name : String} {args : List V} {c c' : Context Place} {x x' : Observed O}
  {result last : Except Interrupt Unit} {k k' k'' : Invocation O V} {n : Nat}

/-! ### Calls on the way -/

/-- **What is issued on the way has a method.** -/
theorem Host.Replays.hasMethod (hmakes : v.Makes o p) (hconsistent : v.machine.Consistent)
    (h : H.Replays p k k') : p.HasMethod k'.name := by
  cases h with
  | issue hstate _ hexecutes hleads _ =>
      obtain ⟨map, hmap, s, hs, t, ht, g, hg, b, hbranch, rfl⟩ := hexecutes.exists_guard hmakes
      obtain ⟨cs, move, -, hdestination, hbody⟩ := Branch.ofGuard_eq_ok hbranch
      rw [hbody] at hleads
      obtain ⟨rfl, -⟩ := Host.passage_of_leads (by exact hstate) hleads
      obtain ⟨issued, hissued, rfl, -⟩ := issue_of_destination? hdestination
      exact hmakes.hasMethod_iff.mpr (hconsistent.issues map hmap s hs t ht g hg _ hissued)

/-- So has every call that is made on the way of one that has. -/
theorem Host.Replayed.hasMethod (hmakes : v.Makes o p) (hconsistent : v.machine.Consistent)
    (h : H.Replayed p n k k') (hmethod : p.HasMethod k.name) : p.HasMethod k'.name := by
  induction h with
  | refl => exact hmethod
  | step _ hreplays _ => exact hreplays.hasMethod hmakes hconsistent

/-- What is called on the way of a replay is called on the way of the first call. -/
theorem Host.Replays.replayed (h : H.Replays p k k') (hreplayed : H.Replayed p n k' k'') :
    H.Replayed p (n + 1) k k'' := by
  induction hreplayed with
  | refl => exact .step (.refl k) h
  | step _ hlast ih => exact .step (ih h) hlast

/-! ### The name after a call -/

/-- **A call that does not panic leaves no name**, handled or refused, whatever it issued. -/
theorem Host.Invokes.transition_eq_empty (h : H.Invokes p name args c x result c' x')
    (hresult : result ≠ .error .panic) : c'.transition = "" := by
  cases h with
  | refused => rfl
  | unjudged => exact absurd rfl hresult
  | ends => exact transition_settled hresult _
  | unvalued => exact absurd rfl hresult
  | issues => exact transition_settled hresult _

/-- **A call that panics leaves the name of a call that panicked**: its own, or that of a call
that was made on its way. -/
theorem Host.Invokes.exists_panicked (hmakes : v.Makes o p)
    (h : H.Invokes p name args c x (.error .panic) c' x') :
    ∃ n k, H.Replayed p n ⟨name, args, c, x⟩ k ∧
      H.Invokes p k.name k.args k.context k.seen (.error .panic) c' x' ∧
      c'.transition = k.name := by
  generalize hpanic : Except.error Interrupt.panic = result at h
  induction h with
  | refused => cases hpanic
  | unjudged hstate hjudge => exact ⟨0, _, .refl _, .unjudged hstate hjudge, rfl⟩
  | ends hstate hjudge hexecutes hends =>
      subst hpanic
      exact ⟨0, _, .refl _, .ends hstate hjudge hexecutes hends,
        (H.context_of_ends hmakes hexecutes hstate hends).1⟩
  | unvalued hstate hjudge hexecutes hleads hvalues =>
      exact ⟨0, _, .refl _, .unvalued hstate hjudge hexecutes hleads hvalues,
        (H.context_of_leads hmakes hexecutes hstate hleads).1⟩
  | issues hstate hjudge hexecutes hleads hvalues _ ih =>
      subst hpanic
      -- a panic settles nothing, so that the outer call ends in the context of the inner one
      obtain ⟨n, k, hreplayed, hinvokes, htransition⟩ := ih rfl
      exact ⟨n + 1, k, (Host.Replays.issue hstate hjudge hexecutes hleads hvalues).replayed
        hreplayed, hinvokes, htransition⟩

/-- **After a call of a method, there is a name exactly if the call panicked.** -/
theorem Host.Invokes.transition_eq_empty_iff (hmakes : v.Makes o p)
    (hconsistent : v.machine.Consistent) (hmethod : p.HasMethod name)
    (h : H.Invokes p name args c x result c' x') :
    c'.transition = "" ↔ result ≠ .error .panic := by
  constructor
  · rintro hempty rfl
    obtain ⟨n, k, hreplayed, -, htransition⟩ := h.exists_panicked hmakes
    have hname := (hreplayed.hasMethod hmakes hconsistent hmethod).ne_empty hmakes
    exact hname (htransition.symm.trans hempty)
  · exact h.transition_eq_empty

/-- To enter the start state names no transition. -/
theorem Host.transition_of_enterStartState (h : Ends (H.enterStartState p) c x result c' x') :
    c'.transition = c.transition := by
  unfold Host.enterStartState at h
  cases hstate : c.state? with
  | none =>
      obtain ⟨-, rfl, -⟩ := h.unique (ends_currentState_none hstate).bind_error
      rfl
  | some place =>
      obtain ⟨-, rfl, -⟩ := h.unique ((ends_currentState hstate).bind (passes_enterState place))
      rfl

/-! ### Runs -/

/-- **The public methods of a program are called, one after the other**, from the start on.
Methods that only read the machine are left out. -/
inductive Host.Runs (H : Host O V) (p : Program) : Except Interrupt Unit → Context Place → Prop
  | new : Runs H p (.ok ()) (.start p.start.place)
  | transition {last result : Except Interrupt Unit} {c c' : Context Place} {x x' : Observed O}
      {name : String} {args : List V} :
      Runs H p last c → p.HasMethod name → H.Invokes p name args c x result c' x' →
      Runs H p result c'
  | enterStartState {last result : Except Interrupt Unit} {c c' : Context Place}
      {x x' : Observed O} :
      Runs H p last c → Ends (H.enterStartState p) c x result c' x' → Runs H p last c'
  /-- A snapshot is taken up. -/
  | restored {last : Except Interrupt Unit} {c : Context Place} {ids : List Nat} :
      Runs H p last c → p.isSerial = true → (c.restore H.roster ids).1 = .ok () →
      Runs H p (.ok ()) (c.restore H.roster ids).2
  /-- A snapshot is refused. -/
  | unrestored {last : Except Interrupt Unit} {c : Context Place} {ids : List Nat}
      {fault : Fault} :
      Runs H p last c → p.isSerial = true → (c.restore H.roster ids).1 = .error fault →
      Runs H p last (c.restore H.roster ids).2

/-- **Between two calls, there is a name exactly if the last transition panicked.** -/
theorem Host.Runs.transition_eq_empty_iff (hmakes : v.Makes o p)
    (hconsistent : v.machine.Consistent) (h : H.Runs p last c) :
    c.transition = "" ↔ last ≠ .error .panic := by
  induction h with
  | new => exact iff_of_true rfl (by rintro ⟨⟩)
  | transition _ hmethod hinvokes _ =>
      exact hinvokes.transition_eq_empty_iff hmakes hconsistent hmethod
  | enterStartState _ hends ih =>
      rw [H.transition_of_enterStartState hends]
      exact ih
  | restored _ _ hrestored =>
      exact iff_of_true (Context.transition_restore hrestored) (by rintro ⟨⟩)
  | unrestored _ _ hrefused ih =>
      rw [Context.transition_restore_error hrefused]
      exact ih

end

end Program

end StateMachine
