import StateMachine.Execution.Run
import StateMachine.Proofs.Except

/-!
# How Runs End

A run is made of the operations of the machine and the owner by a few combinators. For each
of them, this module says how it ends: with which answer or interrupt, in which context and
with which owner. The larger runs of a machine are then followed step by step, without
looking into the monad.

## Conventions

* `Ends r c x result c' x'` reads: a run of `r` that begins in the context `c` with the owner
  `x` ends as `result` says, in the context `c'` with the owner `x'`. The messages of the
  session are not followed, since no run depends on them.
* `Leads r c x c' x' rest` reads: it comes to `c'` and `x'` and goes on as `rest` does.

## Main results

* `Ends.bind`, `Ends.bind_error`: runs are followed one after the other.
* `Ends.transact`: a transition is completed even when its actions are interrupted.
* `Ends.issue`: a transition is in flight until its handler ends, or panics.
* `transition_issue`: unless it panics, it is in flight no more when it is over.
-/

namespace StateMachine.Execution

/-- A message does not change the context. -/
@[simp] theorem Session.context_trace {S : Type} (x : Session S) (message : String) :
    (x.trace message).context = x.context := by
  unfold Session.trace
  split <;> rfl

namespace Run

variable {S O α γ : Type} {c c₁ c' : Context S} {x x₁ x' : O}

/-- A run of `r` that begins in the context `c` with the owner `x` ends as `result` says, in
the context `c'` with the owner `x'`. -/
def Ends (r : Run S O α) (c : Context S) (x : O) (result : Except Interrupt α)
    (c' : Context S) (x' : O) : Prop :=
  ∀ w, w.session.context = c → w.owner = x → ∃ w', w'.session.context = c' ∧ w'.owner = x' ∧
    r.run.run w = (result, w')

/-- A run of `r` that begins in the context `c` with the owner `x` comes to the context `c'`
with the owner `x'`, and goes on as `rest` does. -/
def Leads (r : Run S O α) (c : Context S) (x : O) (c' : Context S) (x' : O)
    (rest : Run S O α) : Prop :=
  ∀ w, w.session.context = c → w.owner = x → ∃ w', w'.session.context = c' ∧ w'.owner = x' ∧
    r.run.run w = rest.run.run w'

/-- A run ends in one way only. -/
theorem Ends.unique {r : Run S O α} {result result' : Except Interrupt α}
    (h : Ends r c x result c₁ x₁) (h' : Ends r c x result' c' x') :
    result = result' ∧ c₁ = c' ∧ x₁ = x' := by
  obtain ⟨w₁, hc₁, hx₁, hr₁⟩ := h ⟨⟨c, []⟩, x⟩ rfl rfl
  obtain ⟨w', hc', hx', hr'⟩ := h' ⟨⟨c, []⟩, x⟩ rfl rfl
  obtain ⟨hresult, hw⟩ := Prod.mk.inj (hr₁.symm.trans hr')
  exact ⟨hresult, by rw [← hc₁, ← hc', hw], by rw [← hx₁, ← hx', hw]⟩

/-- What a run goes on as says how it ends. -/
theorem Leads.ends {r rest : Run S O α} {result : Except Interrupt α}
    (h : Leads r c x c₁ x₁ rest) (hrest : Ends rest c₁ x₁ result c' x') :
    Ends r c x result c' x' := by
  intro w hc hx
  obtain ⟨w₁, hc₁, hx₁, hr⟩ := h w hc hx
  obtain ⟨w', hc', hx', hends⟩ := hrest w₁ hc₁ hx₁
  exact ⟨w', hc', hx', hr.trans hends⟩

/-! ### Sequences -/

/-- An answer ends a run. -/
theorem ends_pure (a : α) : Ends (pure a : Run S O α) c x (.ok a) c x :=
  fun w hc hx => ⟨w, hc, hx, rfl⟩

/-- So does an interrupt. -/
theorem ends_throw (i : Interrupt) : Ends (throw i : Run S O α) c x (.error i) c x :=
  fun w hc hx => ⟨w, hc, hx, rfl⟩

/-- **One run after the other.** -/
theorem Ends.bind {r : Run S O α} {a : α} {k : α → Run S O γ} {result : Except Interrupt γ}
    (h : Ends r c x (.ok a) c₁ x₁) (hk : Ends (k a) c₁ x₁ result c' x') :
    Ends (r >>= k) c x result c' x' := by
  intro w hc hx
  obtain ⟨w₁, hc₁, hx₁, hr⟩ := h w hc hx
  obtain ⟨w', hc', hx', hrest⟩ := hk w₁ hc₁ hx₁
  exact ⟨w', hc', hx', by rw [run_bind, hr, ← hrest]⟩

/-- An interrupt ends what would come after it. -/
theorem Ends.bind_error {r : Run S O α} {k : α → Run S O γ} {i : Interrupt}
    (h : Ends r c x (.error i) c' x') : Ends (r >>= k) c x (.error i) c' x' := by
  intro w hc hx
  obtain ⟨w', hc', hx', hr⟩ := h w hc hx
  exact ⟨w', hc', hx', by rw [run_bind, hr]⟩

/-- After a run that ends, what comes next is what is left. -/
theorem Ends.leads_bind {r : Run S O α} {a : α} {k : α → Run S O γ}
    (h : Ends r c x (.ok a) c' x') : Leads (r >>= k) c x c' x' (k a) := by
  intro w hc hx
  obtain ⟨w', hc', hx', hr⟩ := h w hc hx
  exact ⟨w', hc', hx', by rw [run_bind, hr]⟩

/-- Whatever a run goes on as, what comes after it comes after that. -/
theorem Leads.bind_rest {r rest : Run S O α} {k : α → Run S O γ} (h : Leads r c x c' x' rest) :
    Leads (r >>= k) c x c' x' (rest >>= k) := by
  intro w hc hx
  obtain ⟨w', hc', hx', hr⟩ := h w hc hx
  exact ⟨w', hc', hx', by rw [run_bind, hr, run_bind]⟩

/-- An answer can be used for another one. -/
theorem Ends.map {r : Run S O α} {a : α} (h : Ends r c x (.ok a) c' x') (f : α → γ) :
    Ends (r >>= fun b => pure (f b)) c x (.ok (f a)) c' x' :=
  h.bind (ends_pure (f a))

/-! ### Interrupts -/

/-- A run with a handler for interrupts. -/
theorem run_tryCatch (r : Run S O α) (k : Interrupt → Run S O α) (w : Running S O) :
    (tryCatch r k).run.run w =
      match r.run.run w with
      | (.ok a, w') => (.ok a, w')
      | (.error i, w') => (k i).run.run w' := by
  unfold ExceptT.run StateT.run
  simp only [tryCatch, tryCatchThe, MonadExceptOf.tryCatch, ExceptT.tryCatch, ExceptT.mk, bind,
    StateT.bind]
  cases r w with
  | mk result w' => cases result <;> rfl

/-- There is nothing to catch in a run that ends with an answer. -/
theorem Ends.catch_ok {r : Run S O α} {a : α} {k : Interrupt → Run S O α}
    (h : Ends r c x (.ok a) c' x') : Ends (tryCatch r k) c x (.ok a) c' x' := by
  intro w hc hx
  obtain ⟨w', hc', hx', hr⟩ := h w hc hx
  refine ⟨w', hc', hx', ?_⟩
  rw [run_tryCatch, hr]

/-- An interrupt is caught where it comes up. -/
theorem Ends.catch_error {r : Run S O α} {i : Interrupt} {k : Interrupt → Run S O α}
    {result : Except Interrupt α} (h : Ends r c x (.error i) c₁ x₁)
    (hk : Ends (k i) c₁ x₁ result c' x') : Ends (tryCatch r k) c x result c' x' := by
  intro w hc hx
  obtain ⟨w₁, hc₁, hx₁, hr⟩ := h w hc hx
  obtain ⟨w', hc', hx', hrest⟩ := hk w₁ hc₁ hx₁
  refine ⟨w', hc', hx', ?_⟩
  rw [run_tryCatch, hr]
  exact hrest

/-- How a run ends, by whether it panics. -/
def raised (panics : Bool) : Except Interrupt Unit :=
  if panics then .error .panic else .ok ()

/-- The interrupt of a result. -/
def interrupt? : Except Interrupt Unit → Option Interrupt
  | .ok () => none
  | .error i => some i

/-- An interrupt becomes a value. -/
theorem Ends.attempt {r : Run S O Unit} {result : Except Interrupt Unit}
    (h : Ends r c x result c' x') :
    Ends (Run.attempt r) c x (.ok (interrupt? result)) c' x' := by
  cases result with
  | ok _ => exact (h.map fun _ => none).catch_ok
  | error i => exact h.bind_error.catch_error (ends_pure _)

/-- A value becomes an interrupt again. -/
theorem ends_resume (result : Except Interrupt Unit) :
    Ends (Run.resume (interrupt? result) : Run S O Unit) c x result c x := by
  cases result with
  | ok _ => exact ends_pure ()
  | error i => exact ends_throw i

/-- How a run ends whose faults are observed. -/
def observed : Except Interrupt α → Except Interrupt (Except Fault α)
  | .ok a => .ok (.ok a)
  | .error (.fault f) => .ok (.error f)
  | .error .panic => .error .panic

/-- A result without panics is observed as it is. -/
theorem observed_mapError (result : Except Fault α) :
    observed (result.mapError .fault) = .ok result := by
  cases result <;> rfl

/-- A fault becomes a value, and a panic passes. -/
theorem Ends.observe {r : Run S O α} {result : Except Interrupt α}
    (h : Ends r c x result c' x') : Ends (Run.observe r) c x (observed result) c' x' := by
  cases result with
  | ok a => exact (h.map Except.ok).catch_ok
  | error i =>
      cases i with
      | fault f => exact h.bind_error.catch_error (ends_pure _)
      | panic => exact h.bind_error.catch_error (ends_throw _)

/-- A refusal becomes an interrupt. -/
theorem ends_accept (result : Except Fault α) :
    Ends (Run.accept result : Run S O α) c x (result.mapError .fault) c x := by
  cases result with
  | ok a => exact ends_pure a
  | error f => exact ends_throw _

/-! ### Operations -/

/-- The owner is changed. -/
theorem ends_onOwner (f : O → O) : Ends (onOwner f : Run S O Unit) c x (.ok ()) c (f x) :=
  fun w hc hx => ⟨{ w with owner := f w.owner }, hc, congrArg f hx, rfl⟩

/-- A change of the session changes the context. -/
theorem ends_onSession {f : Session S → Session S}
    (h : ∀ s : Session S, s.context = c → (f s).context = c') :
    Ends (onSession f : Run S O Unit) c x (.ok ()) c' x :=
  fun w hc hx => ⟨{ w with session := f w.session }, h w.session hc, hx, rfl⟩

/-- What a run reads is what there is. -/
theorem ends_get_bind {k : Running S O → Run S O α} {result : Except Interrupt α}
    (h : ∀ w, w.session.context = c → w.owner = x → Ends (k w) c x result c' x') :
    Ends (get >>= k) c x result c' x' :=
  fun w hc hx => h w hc hx w hc hx

/-- A message is traced. -/
theorem ends_trace (message : String) :
    Ends (onSession (·.trace message) : Run S O Unit) c x (.ok ()) c x :=
  ends_onSession fun s hs => (s.context_trace message).trans hs

section

variable {roster : Roster S}

/-- A state is set. -/
theorem ends_setState (s : S) :
    Ends (setState roster s : Run S O Unit) c x (.ok ()) (c.setState s) x :=
  ends_onSession fun w hw => by simp [Session.setState, Session.update, hw]

/-- The state is cleared. -/
theorem ends_clearState : Ends (clearState : Run S O Unit) c x (.ok ()) c.clearState x :=
  ends_onSession fun w hw => by simp [Session.update, hw]

/-- A state is pushed. -/
theorem ends_pushState (s : S) :
    Ends (pushState roster s : Run S O Unit) c x (.ok ()) (c.pushState s) x :=
  ends_onSession fun w hw => by simp [Session.pushState, Session.update, hw]

/-- The stack is emptied. -/
theorem ends_emptyStack : Ends (emptyStack : Run S O Unit) c x (.ok ()) c.emptyStack x :=
  ends_onSession fun w hw => by simp [Session.update, hw]

/-- The transition in flight is named. -/
theorem ends_setTransition (name : String) :
    Ends (setTransition name : Run S O Unit) c x (.ok ()) (c.setTransition name) x :=
  ends_onSession fun w hw => by simp [Session.update, hw]

/-- The top of the stack is popped. -/
theorem ends_popState {s : S} (h : c.stack.getLast? = some s) :
    Ends (popState roster : Run S O Unit) c x (.ok ())
      { c with stack := c.stack.dropLast, state? := some s } x := by
  rintro w rfl rfl
  have hpop : w.session.context.popState? =
      some (s, { w.session.context with stack := w.session.context.stack.dropLast,
                                        state? := some s }) := by
    rw [Context.popState?, h]
    rfl
  refine ⟨{ w with session := (w.session.popState roster).2 }, ?_, rfl, ?_⟩
  · simp only [Session.popState, hpop]
    rfl
  · change (Run.accept (w.session.popState roster).1 : Run S O Unit).run.run _ = _
    simp only [Session.popState, hpop]
    rfl

/-- An empty stack is not popped. -/
theorem ends_popState_empty (h : c.stack.getLast? = none) :
    Ends (popState roster : Run S O Unit) c x (.error (.fault .emptyStack)) c x := by
  rintro w rfl rfl
  have hpop : w.session.context.popState? = none := by
    rw [Context.popState?, h]
    rfl
  refine ⟨{ w with session := (w.session.popState roster).2 }, ?_, rfl, ?_⟩
  · simp only [Session.popState, hpop]
    exact Session.context_trace _ _
  · change (Run.accept (w.session.popState roster).1 : Run S O Unit).run.run _ = _
    simp only [Session.popState, hpop]
    rfl

/-- The current state is read. -/
theorem ends_currentState {s : S} (h : c.state? = some s) :
    Ends (currentState : Run S O S) c x (.ok s) c x := by
  refine ends_get_bind fun w hc _ => ?_
  have hstate : w.session.context.state = .ok s := by rw [hc, Context.state, h]
  rw [hstate]
  exact ends_pure s

/-- Without a current state, reading it is refused. -/
theorem ends_currentState_none (h : c.state? = none) :
    Ends (currentState : Run S O S) c x (.error (.fault (.stateUndefined c.transition))) c x := by
  refine ends_get_bind fun w hc _ => ?_
  have hstate : w.session.context.state = .error (.stateUndefined c.transition) := by
    rw [hc, Context.state, h]
  rw [hstate]
  exact ends_throw _

end

/-! ### Transitions -/

/-- **A transition is completed even when its actions are interrupted.** The interrupt is
raised in the end. -/
theorem Ends.transact {actions : Run S O Unit} {complete : Run S O α} {a : α}
    {result : Except Interrupt Unit} (hactions : Ends actions c.clearState x result c₁ x₁)
    (hcomplete : Ends complete c₁ x₁ (.ok a) c' x') :
    Ends (Run.transact actions complete) c x (result.map fun _ => a) c' x' := by
  refine ends_clearState.bind (hactions.attempt.bind (hcomplete.bind ?_))
  have hresume := ends_resume (c := c') (x := x') result
  cases result with
  | ok _ => exact hresume.bind (ends_pure a)
  | error i => exact hresume.bind_error

/-- The context when a transition is over: no transition is in flight then, unless a panic
passed by. -/
def settled (result : Except Interrupt Unit) (c : Context S) : Context S :=
  match result with
  | .ok () => c.setTransition ""
  | .error (.fault _) => c.setTransition ""
  | .error .panic => c

/-- The end of a transition does not change the state. -/
@[simp] theorem state?_settled (result : Except Interrupt Unit) (c : Context S) :
    (settled result c).state? = c.state? := by
  unfold settled
  split <;> rfl

/-- Nor does it change the stack. -/
@[simp] theorem stack_settled (result : Except Interrupt Unit) (c : Context S) :
    (settled result c).stack = c.stack := by
  unfold settled
  split <;> rfl

/-- No transition is in flight in the end, unless a panic passed by. -/
theorem transition_settled {result : Except Interrupt Unit} (h : result ≠ .error .panic)
    (c : Context S) : (settled result c).transition = "" := by
  unfold settled
  split
  · rfl
  · rfl
  · exact absurd rfl h

/-- **A transition is in flight until its handler ends, or panics.** -/
theorem Ends.issue {name : String} {handler : S → Run S O Unit} {s : S}
    {result : Except Interrupt Unit} (hstate : c.state? = some s)
    (h : Ends (handler s) (c.setTransition name) x result c' x') :
    Ends (Run.issue name handler) c x result (settled result c') x' := by
  have hhandled := ((ends_currentState (c := c.setTransition name) hstate).bind h).observe
  refine (ends_setTransition name).bind ?_
  cases result with
  | ok _ => exact hhandled.bind ((ends_setTransition "").bind (ends_accept _))
  | error i =>
      cases i with
      | fault f => exact hhandled.bind ((ends_setTransition "").bind (ends_accept _))
      | panic => exact hhandled.bind_error

/-- Without a current state, nothing is issued. -/
theorem Ends.issue_none {name : String} {handler : S → Run S O Unit} (hstate : c.state? = none) :
    Ends (Run.issue name handler) c x (.error (.fault (.stateUndefined name)))
      (c.setTransition "") x := by
  have hrefused : Ends (currentState : Run S O S) (c.setTransition name) x _ _ _ :=
    ends_currentState_none hstate
  exact (ends_setTransition name).bind
    (hrefused.bind_error.observe.bind ((ends_setTransition "").bind (ends_accept _)))

/-- Observed, a run raises no fault. -/
theorem run_observe_ne_fault (r : Run S O α) (w : Running S O) (f : Fault) :
    ((Run.observe r).run.run w).1 ≠ .error (.fault f) := by
  rw [Run.observe, run_tryCatch]
  generalize (r >>= fun a => pure (Except.ok a) : Run S O (Except Fault α)).run.run w = ran
  obtain ⟨result, w'⟩ := ran
  rcases result with (f' | _) | a
  · rintro ⟨⟩
  · rintro ⟨⟩
  · rintro ⟨⟩

/-- What is issued gives up its name behind its handler, unless this panics. -/
theorem run_issue (name : String) (handler : S → Run S O Unit) (w : Running S O) :
    (Run.issue name handler).run.run w =
      match (Run.observe (currentState >>= handler)).run.run
        { w with session := w.session.update (·.setTransition name) } with
      | (.ok answer, w') =>
        (Run.accept answer : Run S O Unit).run.run
          { w' with session := w'.session.update (·.setTransition "") }
      | (.error i, w') => (.error i, w') := by
  have hnamed (name : String) (w : Running S O) : (setTransition name : Run S O Unit).run.run w =
      (.ok (), { w with session := w.session.update (·.setTransition name) }) := rfl
  rw [Run.issue, run_bind, hnamed]
  simp only
  rw [run_bind]
  generalize (Run.observe (currentState >>= handler)).run.run _ = ran
  obtain ⟨result, w'⟩ := ran
  cases result with
  | ok answer => rfl
  | error i => rfl

/-- **Unless it panics, what was issued is in flight no more**, whatever its handler does. -/
theorem transition_issue (name : String) (handler : S → Run S O Unit) (w : Running S O)
    (h : ((Run.issue name handler).run.run w).1 ≠ .error .panic) :
    ((Run.issue name handler).run.run w).2.session.context.transition = "" := by
  rw [run_issue] at h ⊢
  have hfault := run_observe_ne_fault (currentState >>= handler)
    { w with session := w.session.update (·.setTransition name) }
  generalize (Run.observe (currentState >>= handler)).run.run _ = ran at h hfault ⊢
  obtain ⟨result, w'⟩ := ran
  rcases result with (f | _) | (f | _)
  · exact absurd rfl (hfault f)
  · exact absurd rfl h
  · rfl
  · rfl

end Run

end StateMachine.Execution
