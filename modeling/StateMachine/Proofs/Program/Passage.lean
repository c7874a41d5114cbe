import StateMachine.Proofs.Program.Body

/-!
# The Passage of a Body

What the body of a guard does depends on where the guard goes and on the owner, whose actions
may panic at any point. `Destination.passage` says what comes of it in each case: the result,
the context, the owner and what was seen. It leaves out the transition that is issued after a
pop, which comes last and is not up to the body.

## Proof strategy

A body is put together from eight pieces. Each is followed once, for every owner. The two in
the middle run the actions and set the state. With panics caught the state is always set, and
a panic is kept as a local name until the machine has arrived.

## Conventions

* `state` is the place that the name `state` stands for, which is the current state.
* `Passes r c x a` reads: the run `r` in the context `c`, with the owner `x`, ends as the
  passage `a` says.

## Main results

* `ends_middle`: the actions run, and the state is set.
* `ends_arriving`: the machine arrives, and a panic that was kept goes on.
* `body_eq_append`: what a body issues, it issues last.
* `leads_body`, `leads_runBody`: **a body goes the passage of its move**, whatever the options
  and the owner are.
* `Destination.transition_passage`: no passage renames the transition in flight.
-/

namespace StateMachine.Program

open Execution Run

/-! ### Destinations -/

/-- Where a guard takes the machine, in places. -/
inductive Destination where
  | stay
  | go (target : Place)
  /-- The target, or the current state, is pushed below the new state. -/
  | push (target : Option Place) (pushed : Place)
  | pop (issue : Option Issue)

/-- Where a move goes, in places. -/
def Move.destination : Move → Destination
  | .stay => .stay
  | .go target => .go target.place
  | .push target pushed => .push (target.map Variant.place) pushed.place
  | .pop issue => .pop issue

namespace Destination

/-- The state that is set before the destination is entered. -/
def settled (state : Place) : Destination → Place
  | .stay => state
  | .go target => target
  | .push target _ => target.getD state
  | .pop _ => state

/-- Whether the current state is left. In a default state the target may be the current state,
which is then neither left nor entered. -/
def leaves (inDefault : Bool) (state : Place) : Destination → Bool
  | .stay => false
  | .go target => !(inDefault && state = target)
  | .push _ _ => false
  | .pop _ => true

/-- The state that is entered, if one is. -/
def entered? (inDefault : Bool) (state : Place) : Destination → Option Place
  | .stay => none
  | .go target => if inDefault && state = target then none else some target
  | .push _ pushed => some pushed
  | .pop _ => none

end Destination

/-! ### Passages -/

/-- How a run goes. -/
structure Passage (O : Type) where
  result : Except Interrupt Unit
  context : Context Place
  seen : Observed O

section

variable {O : Type}

/-- One passage after the other. -/
def Passage.next (a : Passage O) (f : Context Place → Observed O → Passage O) : Passage O :=
  match a.result with
  | .ok () => f a.context a.seen
  | .error _ => a

/-- A panic that was kept goes before any other result. -/
def Passage.resume (panics : Bool) (a : Passage O) : Passage O :=
  if panics then { a with result := .error .panic } else a

/-- It changes nothing but the result. -/
@[simp] theorem Passage.context_resume (panics : Bool) (a : Passage O) :
    (a.resume panics).context = a.context := by
  cases panics <;> rfl

/-- What was seen was seen. -/
@[simp] theorem Passage.seen_resume (panics : Bool) (a : Passage O) :
    (a.resume panics).seen = a.seen := by
  cases panics <;> rfl

/-- The run `r` goes the passage `a`. -/
def Passes (r : Job O Unit) (c : Context Place) (x : Observed O) (a : Passage O) : Prop :=
  Ends r c x a.result a.context a.seen

variable (β : Behaviour O) (p : Program)

/-- Commands are carried out behind an event. -/
def Behaviour.block (place : Place) (e : Event) (cs : List Command) (c : Context Place)
    (x : Observed O) : Passage O :=
  let carried := β.carry place cs x.owner
  { result := raised carried.panics
    context := contextAfter carried.commands c
    seen := carried.seen { x with events := x.events ++ [e] } }

/-- The state at a place is left. -/
def Behaviour.leave (place : Place) : Context Place → Observed O → Passage O :=
  β.block place (.exit place) (p.exitCommands place)

/-- The state at a place is entered. -/
def Behaviour.enter (place : Place) : Context Place → Observed O → Passage O :=
  β.block place (.entry place) (p.entryCommands place)

namespace Destination

/-- The current state is left, if it is. -/
def depart (inDefault : Bool) (state : Place) (c : Context Place) (x : Observed O)
    (d : Destination) : Passage O :=
  if d.leaves inDefault state then β.leave p state c x else ⟨.ok (), c, x⟩

/-- The new state is entered or pushed, or the stack is popped. -/
def arrive (inDefault : Bool) (state : Place) (c : Context Place) (x : Observed O) :
    Destination → Passage O
  | .stay => ⟨.ok (), c, x⟩
  | .go target =>
    if inDefault && state = target then ⟨.ok (), c, x⟩ else β.enter p target c x
  | .push _ pushed => β.enter p pushed (c.pushState pushed) x
  | .pop _ =>
    match c.stack.getLast? with
    | some top => ⟨.ok (), { c with stack := c.stack.dropLast, state? := some top }, x⟩
    | none => ⟨.error (.fault .emptyStack), c, x⟩

/-- **The passage to a destination**, for a guard with the commands `cs` that is taken in the
context `c` while `state` is current. A panic in the commands is caught, or ends the passage
where there is no current state. -/
def passage (catching inDefault : Bool) (state : Place) (cs : List Command) (c : Context Place)
    (x : Observed O) (d : Destination) : Passage O :=
  (d.depart β p inDefault state c x).next fun c x =>
    let carried := β.carry state cs x.owner
    let acted := contextAfter carried.commands c
    if carried.panics && !catching then
      { result := .error .panic
        context := { acted with state? := none, previous? := some state }
        seen := carried.seen x }
    else
      (d.arrive β p inDefault state
        { acted with
          state? := some (d.settled state)
          previous? := if cs.isEmpty then c.previous? else some state }
        (carried.seen x)).resume carried.panics

end Destination

end

/-! ### The pieces of a body -/

section

variable {O : Type} {p : Program} {β : Behaviour O} {state : Place} {c c' : Context Place}
  {x x' : Observed O} {l : Locals} {cs : List Command} {o : OutputOptions}

/-- A state is left. -/
theorem passes_leaveState (place : Place) :
    Passes (leaveState p β place) c x (β.leave p place c x) :=
  (ends_onOwner _).bind (β.ends_commands place _)

/-- A state is entered. -/
theorem passes_enterState (place : Place) :
    Passes (enterState p β place) c x (β.enter p place c x) :=
  (ends_onOwner _).bind (β.ends_commands place _)

/-- A trace that depends on the options does nothing either way. -/
theorem ends_ifTraced {s : Statement}
    (h : Ends (Statement.execAll p β state l [s]) c x (.ok l) c x) :
    Ends (Statement.execAll p β state l (if o.debug then [s] else [])) c x (.ok l) c x := by
  split_ifs
  · exact h
  · exact ends_nil

/-- Tracing the begin of a transition does nothing. -/
theorem ends_traceEnter (signature : String) :
    Ends (Statement.execAll p β state l [.traceEnter signature]) c x (.ok l) c x :=
  ends_statement rfl (ends_trace _)

/-- Tracing its end does nothing. -/
theorem ends_traceExit (transition : String) :
    Ends (Statement.execAll p β state l [.traceExit transition]) c x (.ok l) c x :=
  ends_statement rfl (ends_trace _)

/-- The old state is left. -/
theorem ends_leaving (inDefault : Bool) (move : Move) :
    let left := move.destination.depart β p inDefault state c x
    Ends (Statement.execAll p β state l (leaving inDefault move)) c x
      (left.result.map fun _ => l) left.context left.seen := by
  cases move with
  | stay => exact ends_nil
  | go target =>
      cases inDefault with
      | false => exact ends_statement rfl (passes_leaveState state)
      | true =>
          by_cases hself : state = target.place
          · have hexec : Statement.exec p β state l (.leaveUnless target) = pure l := by
              simp only [Statement.exec, if_neg (not_not.mpr hself)]
            have hdepart : (Move.go target).destination.depart β p true state c x =
                ⟨.ok (), c, x⟩ := by
              simp [Destination.depart, Destination.leaves, Move.destination, hself]
            rw [hdepart]
            exact ends_singleton (hexec ▸ ends_pure l)
          · have hexec : Statement.exec p β state l (.leaveUnless target) =
                leaveState p β state >>= fun _ => pure l := by
              simp only [Statement.exec, if_pos hself]
            have hdepart : (Move.go target).destination.depart β p true state c x =
                β.leave p state c x := by
              simp [Destination.depart, Destination.leaves, Move.destination, hself]
            rw [hdepart]
            exact ends_statement hexec (passes_leaveState state)
  | push target pushed => exact ends_nil
  | pop issue => exact ends_statement rfl (passes_leaveState state)

/-- The commands of the actions as statements. -/
theorem ends_map_command :
    let carried := β.carry state cs x.owner
    Ends (Statement.execAll p β state l (cs.map .command)) c x
      ((raised carried.panics).map fun _ => l) (contextAfter carried.commands c)
      (carried.seen x) := by
  have hexec : Statement.execAll p β state l (cs.map .command) =
      β.commands state cs >>= fun _ => pure l := by
    induction cs with
    | nil => rfl
    | cons command rest ih =>
        simp only [List.map_cons, Statement.execAll, Statement.exec, Behaviour.commands, ih,
          bind_assoc, pure_bind]
  have hcommands := β.ends_commands (c := c) (x := x) state cs
  simp only [hexec]
  cases hpanics : (β.carry state cs x.owner).panics with
  | false =>
      rw [hpanics] at hcommands
      exact hcommands.map fun _ => l
  | true =>
      rw [hpanics] at hcommands
      exact hcommands.bind_error

/-- Whether a body catches panics: if there are actions and it is not switched off. -/
def catches (o : OutputOptions) (cs : List Command) : Bool :=
  !cs.isEmpty && !o.noCatch

/-- If panics are caught, the actions are over in any case, and a panic is kept. -/
theorem ends_running_catching (hne : cs ≠ []) :
    let carried := β.carry state cs x.owner
    Ends (Statement.execAll p β state l (running true cs)) c x
      (.ok { l with outcome := interrupt? (raised carried.panics) })
      (contextAfter carried.commands c.clearState) (carried.seen x) := by
  have hattempt := (β.ends_commands (c := c.clearState) (x := x) state cs).attempt
  rw [running, if_neg (by simpa using hne)]
  exact ends_append (ends_statement rfl ends_clearState)
    (ends_singleton (hattempt.map fun outcome => ({ l with outcome } : Locals)))

/-- If they are not, a panic ends the body where there is no current state. -/
theorem ends_running (hne : cs ≠ []) :
    let carried := β.carry state cs x.owner
    Ends (Statement.execAll p β state l (running false cs)) c x
      ((raised carried.panics).map fun _ => l)
      (contextAfter carried.commands c.clearState) (carried.seen x) := by
  rw [running, if_neg (by simpa using hne)]
  exact ends_append (ends_statement rfl ends_clearState) ends_map_command

/-- After actions, the state is always set. -/
theorem ends_settling_actions (move : Move) :
    Ends (Statement.execAll p β state l (settling true move)) c x (.ok l)
      { c with state? := some (move.destination.settled state) } x := by
  cases move with
  | stay => exact ends_statement rfl (ends_setState _)
  | go target => exact ends_statement rfl (ends_setState _)
  | push target pushed =>
      cases target with
      | none => exact ends_statement rfl (ends_setState _)
      | some target => exact ends_statement rfl (ends_setState _)
  | pop issue => exact ends_statement rfl (ends_setState _)

/-- Without actions, the state is set unless it is the right one. -/
theorem ends_settling (hstate : c.state? = some state) (move : Move) :
    Ends (Statement.execAll p β state l (settling false move)) c x (.ok l)
      { c with state? := some (move.destination.settled state) } x := by
  have hnothing : Ends (Statement.execAll p β state l []) c x (.ok l)
      { c with state? := some state } x := by
    rw [← hstate]
    exact ends_nil
  cases move with
  | stay => exact hnothing
  | go target => exact ends_statement rfl (ends_setState _)
  | push target pushed =>
      cases target with
      | none => exact hnothing
      | some target => exact ends_statement rfl (ends_setState _)
  | pop issue => exact hnothing

/-- The local names when the actions are over: a panic was kept, or not. -/
def Locals.keeping (panics : Bool) : Locals :=
  { outcome := interrupt? (raised panics) }

/-- **The middle of a body**: the actions run, and the state is set. A panic is kept, unless
it goes through. -/
theorem ends_middle (o : OutputOptions) (cs : List Command) (hstate : c.state? = some state)
    (move : Move) :
    let carried := β.carry state cs x.owner
    let acted := contextAfter carried.commands c
    let run := Statement.execAll p β state {}
      (running (catches o cs) cs ++ settling (!cs.isEmpty) move)
    if carried.panics && o.noCatch then
      Ends run c x (.error .panic) { acted with state? := none, previous? := some state }
        (carried.seen x)
    else
      Ends run c x (.ok (.keeping carried.panics))
        { acted with
          state? := some (move.destination.settled state)
          previous? := if cs.isEmpty then c.previous? else some state }
        (carried.seen x) := by
  simp only
  rcases eq_or_ne cs [] with rfl | hne
  · have hseen : (β.carry state [] x.owner).seen x = x := by
      simp [Behaviour.carry, Carried.seen]
    rw [hseen]
    simp only [Behaviour.carry, Bool.false_and, Bool.false_eq_true, if_false]
    exact ends_settling hstate move
  · have hnonempty : cs.isEmpty = false := by simpa using hne
    have hacted : ∀ (ks : List Command) (state? : Option Place),
        { contextAfter ks c.clearState with state? } =
          { contextAfter ks c with state?, previous? := some state } := by
      intro ks state?
      simp [contextAfter, Context.clearState, hstate]
    simp only [hnonempty, Bool.not_false, Bool.false_eq_true, if_false, ← hacted]
    cases hcatch : o.noCatch with
    | false =>
        rw [Bool.and_false, if_neg Bool.false_ne_true,
          show catches o cs = true by simp [catches, hne, hcatch]]
        exact ends_append (ends_running_catching hne) (ends_settling_actions move)
    | true =>
        have hrunning : Ends (Statement.execAll p β state {} (running false cs)) c x
            ((raised (β.carry state cs x.owner).panics).map fun _ => {}) _ _ := ends_running hne
        rw [Bool.and_true, show catches o cs = false by simp [catches, hcatch]]
        cases hpanics : (β.carry state cs x.owner).panics with
        | false =>
            rw [hpanics] at hrunning
            rw [if_neg Bool.false_ne_true]
            exact ends_append hrunning (ends_settling_actions move)
        | true =>
            rw [hpanics] at hrunning
            rw [if_pos rfl]
            exact ends_append_error hrunning

/-- The statements behind the arrival of a move. -/
def closing (o : OutputOptions) (catching : Bool) (t : Transition) (move : Move) :
    List Statement :=
  (if catching then resuming move else []) ++
    ((if o.debug then [.traceExit t.name] else []) ++ issuing move)

/-- A body in its four parts. -/
theorem body_eq (o : OutputOptions) (inDefault : Bool) (t : Transition) (move : Move)
    (cs : List Command) :
    body o inDefault t move cs =
      (if o.debug then [.traceEnter (signatureText t)] else []) ++
        (leaving inDefault move ++
          ((running (catches o cs) cs ++ settling (!cs.isEmpty) move) ++
            (arriving inDefault (catches o cs) move ++ closing o (catches o cs) t move))) := by
  simp only [← List.append_assoc, closing]
  rfl

/-- The end of a body does nothing, if no transition is issued. -/
theorem ends_end {t : Transition} {move : Move} (hissue : issuing move = []) :
    Ends (Statement.execAll p β state l
      ((if o.debug then [.traceExit t.name] else []) ++ issuing move)) c x (.ok l) c x := by
  rw [hissue, List.append_nil]
  exact ends_ifTraced (ends_traceExit _)

/-- Without a pop, nothing happens behind the arrival but that a panic goes on. -/
theorem ends_closing {t : Transition} {move : Move} {panics catching : Bool}
    (hcatching : panics = true → catching = true) (hresume : resuming move = [.resume])
    (hissue : issuing move = []) :
    Ends (Statement.execAll p β state (.keeping panics) (closing o catching t move)) c x
      ((raised panics).map fun _ => {}) c x := by
  have hgoes : Ends (Statement.execAll p β state (.keeping panics) [.resume]) c x
      ((raised panics).map fun _ => .keeping panics) c x :=
    ends_statement rfl (ends_resume _)
  unfold closing
  rw [hresume]
  cases panics with
  | true =>
      rw [hcatching rfl]
      exact ends_append_error hgoes
  | false =>
      cases catching with
      | false => exact ends_end hissue
      | true => exact ends_append hgoes (ends_end hissue)

/-- A state that is entered, or not, is entered before a panic goes on. -/
theorem ends_before_closing {t : Transition} {move : Move} {panics catching : Bool}
    {xs : List Statement} {a : Passage O} {b : Bool}
    (hcatching : panics = true → catching = true) (hresume : resuming move = [.resume])
    (hissue : issuing move = []) (hb : a.result = raised b)
    (h : Ends (Statement.execAll p β state (.keeping panics) xs) c x
      (a.result.map fun _ => .keeping panics) a.context a.seen) :
    Ends (Statement.execAll p β state (.keeping panics) (xs ++ closing o catching t move)) c x
      ((a.resume panics).result.map fun _ => {}) (a.resume panics).context
      (a.resume panics).seen := by
  obtain ⟨result, context, seen⟩ := a
  obtain rfl := hb
  cases b with
  | true => cases panics <;> exact ends_append_error h
  | false =>
      cases panics with
      | true => exact ends_append h (ends_closing hcatching hresume hissue)
      | false => exact ends_append h (ends_closing hcatching hresume hissue)

/-- Where panics are caught, a panic goes on behind a pop before its result is looked at. -/
theorem ends_popLater {t : Transition} {panics : Bool} {popped : Except Fault Unit}
    (h : Ends (Run.popState β.roster) c x (popped.mapError .fault) c' x') :
    Ends
      (Statement.execAll p β state (.keeping panics)
        ([.popLater] ++ closing o true t (.pop none)))
      c x ((if panics then .error .panic else popped.mapError .fault).map fun _ => {}) c' x' := by
  have hobserved := h.observe
  rw [observed_mapError] at hobserved
  have hlater : Ends (Statement.execAll p β state (.keeping panics) [.popLater]) c x
      (.ok { Locals.keeping panics with popped }) c' x' :=
    ends_singleton (hobserved.map fun popped => ({ Locals.keeping panics with popped } : Locals))
  have hresume : Ends
      (Statement.execAll p β state { Locals.keeping panics with popped } [.resume]) c' x'
      ((raised panics).map fun _ => { Locals.keeping panics with popped }) c' x' :=
    ends_statement rfl (ends_resume _)
  have hcheck : Ends
      (Statement.execAll p β state { Locals.keeping panics with popped } [.checkPop]) c' x'
      ((popped.mapError .fault).map fun _ => { Locals.keeping panics with popped }) c' x' :=
    ends_statement rfl (ends_accept popped)
  refine ends_append hlater ?_
  show Ends (Statement.execAll p β state _ ([.resume] ++ ([.checkPop] ++ _))) _ _ _ _ _
  cases panics with
  | true => exact ends_append_error hresume
  | false =>
      cases popped with
      | ok _ => exact ends_append hresume (ends_append hcheck (ends_end rfl))
      | error f => exact ends_append hresume (ends_append_error hcheck)

/-- **A pop arrives**, whether its result is kept or not. -/
theorem ends_popping {t : Transition} {panics catching inDefault : Bool}
    (hcatching : panics = true → catching = true) :
    let a := ((Destination.pop none).arrive β p inDefault state c x).resume panics
    Ends
      (Statement.execAll p β state (.keeping panics)
        (arriving inDefault catching (.pop none) ++ closing o catching t (.pop none)))
      c x (a.result.map fun _ => {}) a.context a.seen := by
  simp only [Destination.arrive]
  cases catching with
  | false =>
      obtain rfl : panics = false := by simpa using hcatching
      cases htop : c.stack.getLast? with
      | none => exact ends_append_error (ends_statement rfl (ends_popState_empty htop))
      | some top => exact ends_append (ends_statement rfl (ends_popState htop)) (ends_end rfl)
  | true =>
      cases htop : c.stack.getLast? with
      | none =>
          have hpop : Ends (Run.popState β.roster) c x
              ((.error .emptyStack : Except Fault Unit).mapError .fault) c x :=
            ends_popState_empty htop
          cases panics <;> exact ends_popLater hpop
      | some top =>
          have hpop : Ends (Run.popState β.roster) c x
              ((.ok () : Except Fault Unit).mapError .fault)
              { c with stack := c.stack.dropLast, state? := some top } x :=
            ends_popState htop
          cases panics <;> exact ends_popLater hpop

/-- **A move arrives**, and a panic that was kept goes on. -/
theorem ends_arriving {t : Transition} {move : Move} {panics catching inDefault : Bool}
    (hcatching : panics = true → catching = true) (hissue : issuing move = []) :
    let a := (move.destination.arrive β p inDefault state c x).resume panics
    Ends
      (Statement.execAll p β state (.keeping panics)
        (arriving inDefault catching move ++ closing o catching t move))
      c x (a.result.map fun _ => {}) a.context a.seen := by
  cases move with
  | stay => exact ends_before_closing (b := false) hcatching rfl rfl rfl ends_nil
  | go target =>
      cases inDefault with
      | false =>
          exact ends_before_closing hcatching rfl rfl rfl
            (ends_statement rfl (passes_enterState target.place))
      | true =>
          by_cases hself : state = target.place
          · have hexec : Statement.exec p β state (.keeping panics) (.enterUnless target) =
                pure (.keeping panics) := by
              simp only [Statement.exec, if_neg (not_not.mpr hself)]
            have harrive : (Move.go target).destination.arrive β p true state c x =
                ⟨.ok (), c, x⟩ := by
              simp [Destination.arrive, Move.destination, hself]
            rw [harrive]
            exact ends_before_closing (b := false) hcatching rfl rfl rfl
              (ends_singleton (hexec ▸ ends_pure _))
          · have hexec : Statement.exec p β state (.keeping panics) (.enterUnless target) =
                enterState p β target.place >>= fun _ => pure (.keeping panics) := by
              simp only [Statement.exec, if_pos hself]
            have harrive : (Move.go target).destination.arrive β p true state c x =
                β.enter p target.place c x := by
              simp [Destination.arrive, Move.destination, hself]
            rw [harrive]
            exact ends_before_closing hcatching rfl rfl rfl
              (ends_statement hexec (passes_enterState target.place))
  | push target pushed =>
      have hpush : Ends (Statement.execAll p β state (.keeping panics) [.push pushed]) c x
          (.ok (.keeping panics)) (c.pushState pushed.place) x :=
        ends_statement rfl (ends_pushState _)
      exact ends_before_closing hcatching rfl rfl rfl
        (ends_append hpush (ends_statement rfl (passes_enterState pushed.place)))
  | pop issue =>
      cases issue with
      | none => exact ends_popping hcatching
      | some i => cases hissue

/-! ### Bodies -/

/-- The current state is left as the one that is current. -/
theorem Destination.state?_depart (inDefault : Bool) (d : Destination) :
    (d.depart β p inDefault state c x).context.state? = c.state? := by
  unfold Destination.depart
  split_ifs <;> rfl

/-- Panics are only caught where there are actions, and only there the actions panic. -/
theorem catches_of_panics {place : Place} {owner : O} {cs : List Command} {o : OutputOptions}
    (hpanics : (β.carry place cs owner).panics = true)
    (hthrough : ((β.carry place cs owner).panics && o.noCatch) = false) :
    catches o cs = true := by
  rw [hpanics, Bool.true_and] at hthrough
  unfold catches
  rw [hthrough]
  cases cs with
  | nil => cases hpanics
  | cons command rest => rfl

/-- **A body goes the passage of its move**, if no transition is issued. -/
theorem ends_body {inDefault : Bool} {t : Transition} {move : Move}
    (hstate : c.state? = some state) (hissue : issuing move = []) :
    let a := move.destination.passage β p (!o.noCatch) inDefault state cs c x
    Ends (Statement.execAll p β state {} (body o inDefault t move cs)) c x
      (a.result.map fun _ => {}) a.context a.seen := by
  have htrace : Ends (Statement.execAll p β state {}
      (if o.debug then [.traceEnter (signatureText t)] else [])) c x (.ok {}) c x :=
    ends_ifTraced (ends_traceEnter _)
  have hleaving : Ends (Statement.execAll p β state {} (leaving inDefault move)) c x _ _ _ :=
    ends_leaving inDefault move
  have hleft : (move.destination.depart β p inDefault state c x).context.state? = some state :=
    (move.destination.state?_depart inDefault).trans hstate
  rw [body_eq]
  unfold Destination.passage Passage.next
  generalize move.destination.depart β p inDefault state c x = left at hleaving hleft ⊢
  obtain ⟨result, c₁, x₁⟩ := left
  cases result with
  | error i => exact ends_append htrace (ends_append_error hleaving)
  | ok _ =>
      have hmiddle := ends_middle (p := p) (β := β) (x := x₁) o cs hleft move
      simp only [Bool.not_not] at hmiddle ⊢
      cases hthrough : (β.carry state cs x₁.owner).panics && o.noCatch with
      | true =>
          rw [hthrough, if_pos rfl] at hmiddle
          exact ends_append htrace (ends_append hleaving (ends_append_error hmiddle))
      | false =>
          rw [hthrough, if_neg Bool.false_ne_true] at hmiddle
          refine ends_append htrace (ends_append hleaving (ends_append hmiddle ?_))
          exact ends_arriving (fun hpanics => catches_of_panics hpanics hthrough) hissue

/-- A move without the transition that it issues. -/
def Move.withoutIssue : Move → Move
  | .pop _ => .pop none
  | move => move

/-- **What a body issues, it issues last.** -/
theorem body_eq_append (o : OutputOptions) (inDefault : Bool) (t : Transition) (move : Move)
    (cs : List Command) :
    body o inDefault t move cs = body o inDefault t move.withoutIssue cs ++ issuing move := by
  cases move with
  | pop issue => simp [body, Move.withoutIssue, leaving, settling, arriving, resuming, issuing]
  | stay => exact (List.append_nil _).symm
  | go target => exact (List.append_nil _).symm
  | push target pushed => exact (List.append_nil _).symm

/-- A body that issues nothing goes the passage of its move. -/
theorem ends_body_withoutIssue {inDefault : Bool} {t : Transition} (hstate : c.state? = some state)
    (move : Move) :
    let a := move.destination.passage β p (!o.noCatch) inDefault state cs c x
    Ends (Statement.execAll p β state {} (body o inDefault t move.withoutIssue cs)) c x
      (a.result.map fun _ => {}) a.context a.seen := by
  cases move with
  | stay => exact ends_body hstate rfl
  | go target => exact ends_body hstate rfl
  | push target pushed => exact ends_body hstate rfl
  | pop issue =>
      have hbody : Ends (Statement.execAll p β state {} (body o inDefault t (.pop none) cs)) c x
          _ _ _ := ends_body hstate rfl
      exact hbody

/-- What a move issues. -/
def Behaviour.issued (β : Behaviour O) : Move → Job O Unit
  | .pop (some i) => β.issue i
  | _ => pure ()

/-- What is left to run behind a passage. -/
def Passage.onward (β : Behaviour O) (move : Move) (a : Passage O) : Job O Unit :=
  match a.result with
  | .ok () => β.issued move
  | .error i => throw i

/-- **A body goes the passage of its move**, and then issues what the move issues, unless it
was interrupted. -/
theorem leads_body {inDefault : Bool} {t : Transition} (hstate : c.state? = some state)
    (move : Move) :
    let a := move.destination.passage β p (!o.noCatch) inDefault state cs c x
    Leads (Statement.execAll p β state {} (body o inDefault t move cs)) c x a.context a.seen
      (a.onward β move >>= fun _ => pure {}) := by
  have hends : Ends (Statement.execAll p β state {}
      (body o inDefault t move.withoutIssue cs)) c x _ _ _ :=
    ends_body_withoutIssue hstate move
  have hissued : Statement.execAll p β state {} (issuing move) =
      β.issued move >>= fun _ => pure {} := by
    cases move with
    | pop issue =>
        cases issue with
        | none => rfl
        | some i => simp [issuing, Statement.execAll, Statement.exec, Behaviour.issued]
    | stay => rfl
    | go target => rfl
    | push target pushed => rfl
  rw [body_eq_append, Statement.execAll_append]
  unfold Passage.onward
  simp only at hends ⊢
  generalize move.destination.passage β p (!o.noCatch) inDefault state cs c x = a at hends ⊢
  obtain ⟨result, c', x'⟩ := a
  cases result with
  | ok _ =>
      simp only
      rw [← hissued]
      exact hends.leads_bind
  | error i => exact hends.bind_error

/-- So does a body that is run by itself. -/
theorem leads_runBody {inDefault : Bool} {t : Transition} (hstate : c.state? = some state)
    (move : Move) :
    let a := move.destination.passage β p (!o.noCatch) inDefault state cs c x
    Leads (runBody p β state (body o inDefault t move cs)) c x a.context a.seen
      (a.onward β move) := by
  have hbody : Leads (runBody p β state (body o inDefault t move cs)) c x _ _ _ :=
    (leads_body hstate move).bind_rest
  simpa using hbody

/-- Where nothing comes of what is issued, a passage is all there is. -/
theorem Passage.ends_onward (hissue : ∀ i, β.issue i = pure ()) (move : Move) (a : Passage O) :
    Ends (a.onward β move) a.context a.seen a.result a.context a.seen := by
  have hissued : β.issued move = pure () := by
    unfold Behaviour.issued
    split
    · exact hissue _
    · rfl
  unfold Passage.onward
  cases a.result with
  | ok _ =>
      simp only [hissued]
      exact ends_pure ()
  | error i => exact ends_throw i

/-- Then a body ends where its passage does. -/
theorem ends_runBody {inDefault : Bool} {t : Transition} (hissue : ∀ i, β.issue i = pure ())
    (hstate : c.state? = some state) (move : Move) :
    let a := move.destination.passage β p (!o.noCatch) inDefault state cs c x
    Ends (runBody p β state (body o inDefault t move cs)) c x a.result a.context a.seen := by
  have hleads : Leads (runBody p β state (body o inDefault t move cs)) c x _ _ _ :=
    leads_runBody hstate move
  exact hleads.ends (Passage.ends_onward hissue move _)

/-! ### The transition in flight -/

/-- The way out names no transition. -/
theorem Destination.transition_depart (inDefault : Bool) (d : Destination) :
    (d.depart β p inDefault state c x).context.transition = c.transition := by
  unfold depart
  split_ifs
  · rfl
  · rfl

/-- Nor does the way in. -/
theorem Destination.transition_arrive (inDefault : Bool) (d : Destination) :
    (d.arrive β p inDefault state c x).context.transition = c.transition := by
  cases d with
  | stay => rfl
  | go target =>
      simp only [arrive]
      split_ifs
      · rfl
      · rfl
  | push target pushed => rfl
  | pop issue =>
      simp only [arrive]
      cases c.stack.getLast? with
      | none => rfl
      | some top => rfl

/-- **On the way, the transition in flight stays the same**, whatever panics. -/
theorem Destination.transition_passage (catching inDefault : Bool) (d : Destination) :
    (d.passage β p catching inDefault state cs c x).context.transition = c.transition := by
  have hdepart : (d.depart β p inDefault state c x).context.transition = c.transition :=
    d.transition_depart inDefault
  unfold passage Passage.next
  cases hresult : (d.depart β p inDefault state c x).result with
  | error i => exact hdepart
  | ok _ =>
      simp only
      split
      · exact hdepart
      · rw [Passage.context_resume, d.transition_arrive]
        exact hdepart

end

end StateMachine.Program
