import StateMachine.Proofs.Program.Panic

/-!
# Calls from Outside

The methods of a program are called by its host, which also says what its fragments mean:
which conditions hold, what an action does to the owner, what the arguments of a transition
are. Any of this may panic. A call that pops may issue another transition, in the place it
returned to, before it is over.

If panics are caught, the machine has a current state after each call that began in one,
whatever the host does.

## Proof strategy

A call lands at the body of a guard, or does nothing to the state. Whether the body ends or
comes to the transition that it issues, its passage says that there is a current state then
(`Host.ends_run`). So there is one when the next transition is issued, and
`Host.Invokes.isSome_state?` follows the transitions that are issued by induction.

## Conventions

* No part of the host touches the machine.
* `H.Invokes p name args c x result c' x'` reads: the transition `name` is called with `args`
  in the context `c`, and the call is over in the context `c'`. `x` and `x'` are the owners
  with what was seen.
* What the queries of a machine answer is left out.

## Main results

* `Executes.exists_guard`: a call that lands at statements lands at the branch of a guard.
* `panic_completes_transition`: **a panic completes the transition**, and no call leaves the
  machine without a current state.
-/

namespace StateMachine.Program

open Execution Run

/-! ### Hosts -/

/-- The owner of a machine, and what the fragments of the program mean. Whatever may panic is
an option or comes with a truth value. -/
structure Host (O V : Type) where
  /-- The names and numbers of the states. -/
  roster : Roster Place
  /-- Which conditions hold when a transition is called with arguments in a state, unless one
  panics, and the owner once they were asked. -/
  judge : String → Place → List V → O → Option Truth × O
  /-- What a command does to the owner, and whether it panics. Where the command stands in the
  body of a guard, or is run by it, the site and the frame are given. -/
  perform : Option (Site × Frame V) → Place → Command → O → O × Bool
  /-- The values of the arguments of a transition that is issued, unless one panics. -/
  evaluate : Site → Frame V → List Rust.Fragment → O → Option (List V) × O

namespace Host

variable {O V : Type}

/-- The behaviour of a host in the body of a guard, or outside of any. -/
def behaviour (H : Host O V) (place? : Option (Site × Frame V)) (issue : Issue → Job O Unit) :
    Behaviour O :=
  { roster := H.roster, perform := H.perform place?, issue }

/-- An unhandled transition is refused, or panics. -/
def refuse (H : Host O V) (p : Program) (place : Place) : Job O Unit := do
  if p.panics then throw .panic
  else throw (.fault (.undefined (H.roster.name place) (← get).session.context.transition))

/-- What is run where a call lands. -/
def run (H : Host O V) (p : Program) (issue : Issue → Job O Unit) (state : Place) :
    Landing V → Job O Unit
  | .body site frame statements =>
    runBody p (H.behaviour (some (site, frame)) issue) state statements
  | .unhandled place => H.refuse p place
  | .finished => pure ()

/-- The entry actions of the current state are run, as once at the start. -/
def enterStartState (H : Host O V) (p : Program) : Job O Unit := do
  enterState p (H.behaviour none fun _ => pure ()) (← Run.currentState)

/-- **A transition is called.** What is issued on the way is called before the call is over. -/
inductive Invokes (H : Host O V) (p : Program) :
    String → List V → Context Place → Observed O → Except Interrupt Unit → Context Place →
      Observed O → Prop
  /-- There is no current state. -/
  | refused {name : String} {args : List V} {c : Context Place} {x : Observed O} :
      c.state? = none →
      Invokes H p name args c x (.error (.fault (.stateUndefined name))) (c.setTransition "") x
  /-- A condition panics. -/
  | unjudged {name : String} {args : List V} {c : Context Place} {x : Observed O}
      {place : Place} {owner : O} :
      c.state? = some place → H.judge name place args x.owner = (none, owner) →
      Invokes H p name args c x (.error .panic) (c.setTransition name) { x with owner }
  /-- The call lands where nothing is issued. -/
  | ends {name : String} {args : List V} {c c' : Context Place} {x x' : Observed O}
      {place : Place} {truth : Truth} {owner : O} {l : Landing V}
      {result : Except Interrupt Unit} :
      c.state? = some place → H.judge name place args x.owner = (some truth, owner) →
      Executes p truth name place args l →
      (∀ issue, Ends (H.run p issue place l) (c.setTransition name) { x with owner } result
        c' x') →
      Invokes H p name args c x result (settled result c') x'
  /-- An argument of the transition that is issued panics. -/
  | unvalued {name : String} {args : List V} {c c₁ : Context Place} {x x₁ : Observed O}
      {place : Place} {truth : Truth} {owner owner₁ : O} {site : Site} {frame : Frame V}
      {statements : List Statement} {i : Issue} :
      c.state? = some place → H.judge name place args x.owner = (some truth, owner) →
      Executes p truth name place args (.body site frame statements) →
      (∀ issue, Leads (H.run p issue place (.body site frame statements))
        (c.setTransition name) { x with owner } c₁ x₁ (issue i)) →
      H.evaluate site frame i.arguments x₁.owner = (none, owner₁) →
      Invokes H p name args c x (.error .panic) c₁ { x₁ with owner := owner₁ }
  /-- A transition is issued, and ends the call as it ends itself. -/
  | issues {name : String} {args values : List V} {c c₁ c' : Context Place}
      {x x₁ x' : Observed O} {place : Place} {truth : Truth} {owner owner₁ : O} {site : Site}
      {frame : Frame V} {statements : List Statement} {i : Issue}
      {result : Except Interrupt Unit} :
      c.state? = some place → H.judge name place args x.owner = (some truth, owner) →
      Executes p truth name place args (.body site frame statements) →
      (∀ issue, Leads (H.run p issue place (.body site frame statements))
        (c.setTransition name) { x with owner } c₁ x₁ (issue i)) →
      H.evaluate site frame i.arguments x₁.owner = (some values, owner₁) →
      Invokes H p i.transition values c₁ { x₁ with owner := owner₁ } result c' x' →
      Invokes H p name args c x result (settled result c') x'

/-- **A public method is called.** -/
inductive Calls (H : Host O V) (p : Program) :
    Context Place → Observed O → Except Interrupt Unit → Context Place → Observed O → Prop
  | transition {name : String} {args : List V} {c c' : Context Place} {x x' : Observed O}
      {result : Except Interrupt Unit} :
      H.Invokes p name args c x result c' x' → Calls H p c x result c' x'
  | enterStartState {c c' : Context Place} {x x' : Observed O}
      {result : Except Interrupt Unit} :
      Ends (H.enterStartState p) c x result c' x' → Calls H p c x result c' x'
  /-- A serial program restores a snapshot. -/
  | restore {c : Context Place} {x : Observed O} {ids : List Nat} :
      p.isSerial = true →
      Calls H p c x ((c.restore H.roster ids).1.mapError .fault) (c.restore H.roster ids).2 x
  /-- A method that reads the machine or hands it out. -/
  | query {c : Context Place} {x : Observed O} {result : Except Fault Unit} :
      Calls H p c x (result.mapError .fault) c x

end Host

/-! ### Landing at a body -/

section

variable {v : Validated} {o : OutputOptions} {p : Program} {V : Type}

/-- A branch that is taken is one of the branches. -/
theorem Handler.exists_of_choice {truth : Truth} {h : Handler} {i : Nat} {b : Branch}
    (hchoice : h.choice truth = .take i b) :
    ∃ bs otherwise, h.body = .branches bs otherwise ∧ b ∈ bs := by
  unfold Handler.choice at hchoice
  cases hbody : h.body with
  | forward f =>
      rw [hbody] at hchoice
      cases hchoice
  | branches bs otherwise =>
      rw [hbody] at hchoice
      simp only at hchoice
      generalize hfind : bs.zipIdx.find? _ = found? at hchoice
      cases found? with
      | none => cases otherwise <;> cases hchoice
      | some found =>
          obtain ⟨rfl, rfl⟩ := Choice.take.inj hchoice
          exact ⟨bs, otherwise, rfl, List.mem_of_getElem?
            (List.mk_mem_zipIdx_iff_getElem?.mp (List.mem_of_find?_eq_some hfind))⟩

/-- A call that lands at statements lands at a branch. -/
theorem Lands.exists_branch {truth : Truth} {call : Call V} {l : Landing V}
    (h : Lands p truth call l) {site : Site} {frame : Frame V} {statements : List Statement}
    (hl : l = .body site frame statements) :
    ∃ h ∈ p.handlers, ∃ bs otherwise, h.body = .branches bs otherwise ∧
      ∃ b ∈ bs, b.statements = statements := by
  induction h with
  | take hmem _ hchoice =>
      obtain ⟨-, -, rfl⟩ := Landing.body.inj hl
      obtain ⟨bs, otherwise, hbody, hb⟩ := Handler.exists_of_choice hchoice
      exact ⟨_, hmem, bs, otherwise, hbody, _, hb, rfl⟩
  | forward _ _ _ _ _ ih => exact ih hl
  | finish => cases hl
  | dispatch _ _ _ _ _ ih => exact ih hl
  | unhandled => cases hl

/-- **A call that lands at statements lands at the branch of a guard.** -/
theorem Executes.exists_guard (hmakes : v.Makes o p) {truth : Truth} {name : String}
    {place : Place} {args : List V} {site : Site} {frame : Frame V} {statements : List Statement}
    (h : Executes p truth name place args (.body site frame statements)) :
    ∃ map ∈ v.machine.maps, ∃ s ∈ map.allStates, ∃ t ∈ s.transitions, ∃ g ∈ t.guards, ∃ b,
      Branch.ofGuard v.machine o map s t g = .ok b ∧ b.statements = statements := by
  obtain ⟨_, -, -, _, -, -, _, _, -, -, hlands⟩ := h
  obtain ⟨handler, hmem, bs, otherwise, hbody, b, hb, rfl⟩ := hlands.exists_branch rfl
  obtain ⟨map, hmap, ⟨s, hs, t, ht, hok⟩ | ⟨t, -, hok⟩⟩ := hmakes.mem_handlers_iff.mp hmem
  · obtain ⟨-, -, bs', otherwise', hbody', hbs, -⟩ := Handler.ofTransition_eq_ok_iff.mp hok
    obtain ⟨rfl, rfl⟩ := HandlerBody.branches.inj (hbody.symm.trans hbody')
    obtain ⟨g, hg, hbranch⟩ := (mem_of_mapM_eq_ok hbs).mp hb
    exact ⟨map, hmap, s, hs, t, ht, g, hg, b, hbranch, rfl⟩
  · obtain ⟨-, -, hforward⟩ := Handler.forwarding_eq_ok_iff.mp hok
    rw [hbody] at hforward
    cases hforward

/-- These are the body of the guard. -/
theorem Executes.exists_body (hmakes : v.Makes o p) {truth : Truth} {name : String}
    {place : Place} {args : List V} {site : Site} {frame : Frame V} {statements : List Statement}
    (h : Executes p truth name place args (.body site frame statements)) :
    ∃ inDefault t move cs, statements = body o inDefault t move cs := by
  obtain ⟨_, -, s, -, t, -, _, -, _, hbranch, rfl⟩ := h.exists_guard hmakes
  obtain ⟨cs, move, -, -, hstatements⟩ := Branch.ofGuard_eq_ok hbranch
  exact ⟨s.isDefault, t, move, cs, hstatements⟩

end

/-! ### The current state after a call -/

section

variable {O V : Type} {H : Host O V} {v : Validated} {o : OutputOptions} {p : Program}
  {c c' : Context Place} {x x' : Observed O} {result : Except Interrupt Unit}

/-- A refusal changes nothing. -/
theorem Host.ends_refuse (H : Host O V) (place : Place) :
    ∃ i, Ends (H.refuse p place) c x (.error i) c x := by
  unfold Host.refuse
  cases p.panics with
  | true => exact ⟨.panic, ends_throw .panic⟩
  | false =>
      refine ⟨.fault (.undefined (H.roster.name place) c.transition), ?_⟩
      refine ends_get_bind fun w hc _ => ?_
      rw [hc]
      exact ends_throw _

/-- **Where a call lands, it ends**, if nothing comes of what is issued: the transition in flight
is the same then, and when panics are caught there is a current state. -/
theorem Host.ends_run (hmakes : v.Makes o p) {truth : Truth} {name : String} {place : Place}
    {args : List V} {l : Landing V} (hexecutes : Executes p truth name place args l)
    (hstate : c.state? = some place) :
    ∃ result c' x', Ends (H.run p (fun _ => pure ()) place l) c x result c' x' ∧
      c'.transition = c.transition ∧ (o.noCatch = false → c'.state?.isSome) := by
  have hsome : c.state?.isSome := by rw [hstate]; rfl
  cases l with
  | unhandled place' =>
      obtain ⟨i, hends⟩ := H.ends_refuse place'
      exact ⟨_, _, _, hends, rfl, fun _ => hsome⟩
  | finished => exact ⟨_, _, _, ends_pure (), rfl, fun _ => hsome⟩
  | body site frame statements =>
      obtain ⟨inDefault, t, move, cs, rfl⟩ := hexecutes.exists_body hmakes
      refine ⟨_, _, _, ends_runBody (fun _ => rfl) hstate move,
        move.destination.transition_passage _ _, fun hcatch => ?_⟩
      rw [hcatch]
      exact move.destination.isSome_state?_passage hstate

/-- So it is where a run ends that issues nothing. -/
theorem Host.context_of_ends (hmakes : v.Makes o p) {truth : Truth} {name : String}
    {place : Place} {args : List V} {l : Landing V}
    (hexecutes : Executes p truth name place args l) (hstate : c.state? = some place)
    (hends : ∀ issue, Ends (H.run p issue place l) (c.setTransition name) x result c' x') :
    c'.transition = name ∧ (o.noCatch = false → c'.state?.isSome) := by
  obtain ⟨_, _, _, hrun, hcontext⟩ :=
    H.ends_run (c := c.setTransition name) (x := x) hmakes hexecutes hstate
  obtain ⟨-, rfl, -⟩ := (hends _).unique hrun
  exact hcontext

/-- And so it is where a transition is issued. -/
theorem Host.context_of_leads (hmakes : v.Makes o p) {truth : Truth} {name : String}
    {place : Place} {args : List V} {l : Landing V} {i : Issue}
    (hexecutes : Executes p truth name place args l) (hstate : c.state? = some place)
    (hleads : ∀ issue, Leads (H.run p issue place l) (c.setTransition name) x c' x' (issue i)) :
    c'.transition = name ∧ (o.noCatch = false → c'.state?.isSome) := by
  obtain ⟨_, _, _, hrun, hcontext⟩ :=
    H.ends_run (c := c.setTransition name) (x := x) hmakes hexecutes hstate
  obtain ⟨-, rfl, -⟩ := ((hleads _).ends (ends_pure ())).unique hrun
  exact hcontext

/-- **After a call of a transition there is a current state**, if there was one before. -/
theorem Host.Invokes.isSome_state? (hmakes : v.Makes o p) (hcatch : o.noCatch = false)
    {name : String} {args : List V} (h : H.Invokes p name args c x result c' x')
    (hsome : c.state?.isSome) : c'.state?.isSome := by
  induction h with
  | refused hstate =>
      rw [hstate] at hsome
      cases hsome
  | unjudged => exact hsome
  | ends hstate _ hexecutes hends =>
      rw [state?_settled]
      exact (H.context_of_ends hmakes hexecutes hstate hends).2 hcatch
  | unvalued hstate _ hexecutes hleads =>
      exact (H.context_of_leads hmakes hexecutes hstate hleads).2 hcatch
  | issues hstate _ hexecutes hleads _ _ ih =>
      rw [state?_settled]
      exact ih ((H.context_of_leads hmakes hexecutes hstate hleads).2 hcatch)

/-- Entering the start state changes no state. -/
theorem Host.state?_of_enterStartState (h : Ends (H.enterStartState p) c x result c' x') :
    c'.state? = c.state? := by
  unfold Host.enterStartState at h
  cases hstate : c.state? with
  | none =>
      obtain ⟨-, rfl, -⟩ := h.unique (ends_currentState_none hstate).bind_error
      exact hstate
  | some place =>
      obtain ⟨-, rfl, -⟩ := h.unique ((ends_currentState hstate).bind (passes_enterState place))
      exact hstate

/-- A snapshot that is restored has a current state. -/
theorem isSome_state?_restore (roster : Roster Place) (c : Context Place) (ids : List Nat)
    (hsome : c.state?.isSome) : (c.restore roster ids).2.state?.isSome := by
  unfold Context.restore
  split
  · exact hsome
  · split
    · exact hsome
    · split
      · exact hsome
      · rfl

/-- **After any call there is a current state**, if there was one before. -/
theorem Host.Calls.isSome_state? (hmakes : v.Makes o p) (hcatch : o.noCatch = false)
    (h : H.Calls p c x result c' x') (hsome : c.state?.isSome) : c'.state?.isSome := by
  cases h with
  | transition hinvokes => exact hinvokes.isSome_state? hmakes hcatch hsome
  | enterStartState hends => rwa [H.state?_of_enterStartState hends]
  | restore => exact isSome_state?_restore _ _ _ hsome
  | query => exact hsome

end

end StateMachine.Program

namespace StateMachine

open Program Execution

/-! ### A gate that is jammed -/

/-- A host to which no condition holds, and whose owner panics whatever it does. -/
def jammed : Host Unit Nat where
  roster := idle.roster
  judge _ _ _ o := (some fun _ _ => false, o)
  perform _ _ _ o := (o, true)
  evaluate _ _ _ o := (some [], o)

/-- The guard that counts what the gate does not answer. -/
def gateCounting : Guard :=
  .make "" (.set .nil) 2 [{ name := "count" }]

/-- The transition of that guard. -/
def gateCount : Transition := { name := "Default", guards := [gateCounting] }

/-- The first command of a jammed owner panics, unless it empties the stack. -/
theorem carry_jammed (place? : Option (Site × Frame Nat)) (issue : Issue → Job Unit Unit)
    (place : Place) {command : Command} (h : command.emptiesStack = false) :
    (jammed.behaviour place? issue).carry place [command] () = ⟨[command], (), true⟩ := by
  cases command with
  | emptyStack => cases h
  | call method arguments => rfl
  | assign property value => rfl

/-- To count is one command, which leaves the stack alone. -/
theorem command_of_gateCount {cs : List Command}
    (h : Command.ofActions gateCounting.actions = .ok cs) :
    ∃ command, cs = [command] ∧ command.emptiesStack = false := by
  have hempties : (Command.ofActions gateCounting.actions).toOption.map
      (List.map Command.emptiesStack) = some [false] := by
    decide +kernel
  rw [h] at hempties
  have hmap : cs.map Command.emptiesStack = [false] := Option.some.inj hempties
  obtain ⟨command, rest, rfl, hcommand, hrest⟩ := List.map_eq_cons_iff.mp hmap
  obtain rfl := List.map_eq_nil_iff.mp hrest
  exact ⟨command, rfl, hcommand⟩

/-- A jammed gate that counts stays where it is. -/
theorem jammed_counts {p : Program} {b : Branch} {s : State}
    (h : Branch.ofGuard gate {} gateMap s gateCount gateCounting = .ok b)
    {c : Context Place} {place : Place} (hstate : c.state? = some place) :
    ∃ command, ∀ place? issue,
      Run.Ends (runBody p (jammed.behaviour place? issue) place b.statements) c ⟨(), []⟩
        (.error .panic) { c with state? := some place, previous? := some place }
        ⟨(), [.command command]⟩ := by
  obtain ⟨cs, move, hcs, hstatements, hcut⟩ := Branch.ofGuard_cutAt h
  obtain ⟨command, rfl, hcommand⟩ := command_of_gateCount hcs
  obtain ⟨hdestination, -⟩ := hcut 0
  have hstay : Destination.stay = move.withoutIssue.destination :=
    Option.some.inj hdestination
  refine ⟨command, fun place? issue => ?_⟩
  have hout : move.withoutIssue.destination.LetsOut (jammed.behaviour place? issue) p
      s.isDefault place () () := by
    rw [← hstay]
    rfl
  have hcarry : (jammed.behaviour place? issue).carry place [command] () =
      ⟨[] ++ [command], (), true⟩ := carry_jammed place? issue place hcommand
  rw [hstatements]
  obtain ⟨c', x', hends, hunwound⟩ :=
    ends_runBody_panic (x := ⟨(), []⟩) (t := gateCount) (o := {}) rfl hstate hout hcarry
  rw [← hstay] at hunwound
  obtain ⟨rfl, rfl⟩ := hunwound.completes () rfl
  exact hends

/-- With a wrong key, the gate counts, and that panics. -/
theorem jammed_invokes {v : Validated} {p : Program} (hv : gate.validate = .ok v)
    (hp : v.program {} = .ok p) :
    ∃ c' x', jammed.Invokes p gateUnlock.name [8] (.start (.ofState gateMap gateClosed)) ⟨(), []⟩
      (.error .panic) c' x' := by
  have hmachine := Machine.machine_of_validate hv
  have hmakes := Validated.makes_of_program hp
  have hbuilt := gate_built
  have happart : gate.ParametersApart := by decide +kernel
  have hmap : gateMap ∈ gate.maps := List.mem_singleton_self _
  rw [← hmachine] at happart hmap hbuilt
  have hordinary : gateClosed ∈ gateMap.states := List.mem_cons_self
  have hs : (gateMap, gateClosed) ∈ v.machine.states :=
    Machine.mem_states_iff.mpr ⟨hmap, hordinary⟩
  have hclosed : gateClosed ∈ gateMap.allStates := List.mem_append_right _ hordinary
  have ht : gateUnlock ∈ gateClosed.transitions := List.mem_singleton_self _
  have hname : gateUnlock.name ≠ State.defaultTransition := by decide
  have hargs : [8].length = gateUnlock.parameters.length := rfl
  have hfind : ((Candidate.all gateMap gateClosed gateUnlock.name).find?
      (Candidate.fires (fun _ _ => false) gateMap)).map
        (fun c => (c.state, c.transition, c.guard)) =
      some (gateDefault, gateCount, gateCounting) := by
    decide +kernel
  obtain ⟨found, hfound, heq⟩ := Option.map_eq_some_iff.mp hfind
  obtain ⟨hstate, htransition, hguard⟩ : found.state = gateDefault ∧
      found.transition = gateCount ∧ found.guard = gateCounting := by
    simpa using heq
  obtain ⟨l, b, bs, hb, hbs, rfl⟩ := Candidate.exists_runs hmakes hmap hordinary
    (List.mem_of_find?_eq_some hfound) (.ofState gateMap gateClosed) [8]
  have hexecutes : Executes p (fun _ _ => false) gateUnlock.name (.ofState gateMap gateClosed) [8]
      (.body (found.site gateMap) (frameOf bs (.ofState gateMap gateClosed) [8])
        b.statements) := by
    rw [executes_iff_firstOf hmakes hbuilt.wellFormed happart hs hmap hclosed ht hname hargs,
      FirstOf, hfound]
    exact ⟨b, bs, hb, hbs, rfl⟩
  rw [hmachine, hstate, htransition, hguard] at hb
  obtain ⟨command, hends⟩ := jammed_counts (p := p) hb
    (c := (Context.start (.ofState gateMap gateClosed)).setTransition gateUnlock.name) rfl
  exact ⟨_, _, .ends rfl rfl hexecutes fun issue => hends _ issue⟩

/-! ### Panics complete transitions -/

/-- **A panic completes the transition.** Where panics are caught, take any guard of a program,
any of its actions and any context with a current state, and let this action panic. The body
of the guard then ends in the panic. It has gone where the body of the guard goes that is cut
before this action, with nothing to issue and an owner that never panics: it ends in the same
state, it has begun to enter the same state, and unless that panics as well it has entered it
and left the same stack.

So each call of a public method that begins with a current state ends with one, whatever
panics on the way. -/
theorem panic_completes_transition {m : Machine} {v : Validated} {o : OutputOptions}
    {p : Program} (hvalid : m.validate = .ok v) (hprogram : v.program o = .ok p)
    (hcatch : o.noCatch = false) :
    (∀ map ∈ m.maps, ∀ s ∈ map.allStates, ∀ t ∈ s.transitions, ∀ (i : Nat) (g : Guard),
      t.guards[i]? = some g →
      ∃ h ∈ p.handlers, h.name.key = map.handlerKey s t ∧
        ∃ bs otherwise b, h.body = .branches bs otherwise ∧ bs[i]? = some b ∧
          ∃ cs, Command.ofActions g.actions = .ok cs ∧
            ∀ before command rest, cs = before ++ command :: rest →
              ∃ b' d, Branch.ofGuard m o map s t (g.cutAt before.length) = .ok b' ∧
                (g.cutAt before.length).destination? m map = some d ∧
                ∀ (state : Place) (c : Context Place), c.state? = some state →
                  (∀ (O : Type) (β : Behaviour O), β.Quiet →
                    Reaches (runBody p β state b'.statements) c
                      (d.course p s.isDefault state before c).events
                      (d.course p s.isDefault state before c).context
                      ((d.course p s.isDefault state before c).ending.job β)) ∧
                  (∀ i, (d.course p s.isDefault state before c).ending ≠ .issues i) ∧
                  ∀ (O : Type) (β : Behaviour O) (x : Observed O) (o₁ o₂ : O),
                    d.LetsOut β p s.isDefault state x.owner o₁ →
                    β.carry state cs o₁ = ⟨before ++ [command], o₂, true⟩ →
                    ∃ c' x', Run.Ends (runBody p β state b.statements) c x (.error .panic) c' x' ∧
                      Unwound β p s.isDefault state d before command c x o₂ c' x') ∧
      ∀ (O V : Type) (H : Host O V) (c c' : Context Place) (x x' : Observed O)
        (result : Except Interrupt Unit), H.Calls p c x result c' x' →
        c.inTransition = false → c'.inTransition = false := by
  obtain rfl := Machine.machine_of_validate hvalid
  have hmakes := Validated.makes_of_program hprogram
  refine ⟨?_, ?_⟩
  · intro map hmap s hs t ht i g hg
    obtain ⟨h, hmem, hok⟩ := hmakes.exists_handler hmap hs ht
    obtain ⟨hname, -, bs, otherwise, hbody, hbs, -⟩ := Handler.ofTransition_eq_ok_iff.mp hok
    obtain ⟨b, hb, hbranch⟩ := getElem?_of_mapM_eq_ok hbs hg
    obtain ⟨cs, move, hcs, hstatements, hcut⟩ := Branch.ofGuard_cutAt hbranch
    refine ⟨h, hmem, (HandlerName.make_eq_ok_iff.mp hname).1, bs, otherwise, b, hbody, hb, cs,
      hcs, ?_⟩
    rintro before command rest rfl
    obtain ⟨hdestination, b', hbranch', hstatements'⟩ := hcut before.length
    rw [List.take_left] at hstatements'
    refine ⟨b', move.withoutIssue.destination, hbranch', hdestination, ?_⟩
    intro state c hstate
    refine ⟨fun O β hquiet => ?_, ?_, fun O β x o₁ o₂ hout hcarry => ?_⟩
    · obtain ⟨l, hreaches⟩ := reaches_body (l := {}) hquiet rfl hstate move.withoutIssue
      rw [hstatements']
      exact hreaches.runBody
    · exact move.ending_course_withoutIssue
    · rw [hstatements]
      exact ends_runBody_panic hcatch hstate hout hcarry
  · intro O V H c c' x x' result hcalls hdefined
    rw [Context.inTransition, Option.isNone_eq_false_iff] at hdefined ⊢
    exact hcalls.isSome_state? hmakes hcatch hdefined

/-- The panic of the count ends the call, and the gate is still closed. -/
theorem gate_count_panics :
    ∃ v p, gate.validate = .ok v ∧ v.program {} = .ok p ∧
      ({} : OutputOptions).noCatch = false ∧
      (∃ h ∈ p.handlers, h.name.key = gateMap.handlerKey gateDefault gateCount ∧
        ∃ bs otherwise b command, h.body = .branches bs otherwise ∧ bs[0]? = some b ∧
          Run.Ends
            (runBody p (jammed.behaviour none fun _ => pure ()) (.ofState gateMap gateClosed)
              b.statements)
            (.start (.ofState gateMap gateClosed)) ⟨(), []⟩ (.error .panic)
            { Context.start (.ofState gateMap gateClosed) with
              previous? := some (.ofState gateMap gateClosed) }
            ⟨(), [.command command]⟩) ∧
      ∃ c' x', jammed.Calls p (.start (.ofState gateMap gateClosed)) ⟨(), []⟩ (.error .panic)
          c' x' ∧ c'.inTransition = false := by
  obtain ⟨v, p, hv, hp⟩ := gate_program
  obtain ⟨hguards, hcalls⟩ := panic_completes_transition hv hp rfl
  refine ⟨v, p, hv, hp, rfl, ?_, ?_⟩
  · have hmap : gateMap ∈ gate.maps := List.mem_singleton_self _
    have hdefault : gateDefault ∈ gateMap.allStates := List.mem_cons_self
    have ht : gateCount ∈ gateDefault.transitions := List.mem_singleton_self _
    obtain ⟨h, hmem, hkey, bs, otherwise, b, hbody, hb, cs, hcs, hcut⟩ :=
      hguards gateMap hmap gateDefault hdefault gateCount ht 0 _ rfl
    obtain ⟨command, rfl, hcommand⟩ := command_of_gateCount hcs
    obtain ⟨_, d, -, hd, hruns⟩ := hcut [] command [] rfl
    obtain rfl : Destination.stay = d := Option.some.inj hd
    obtain ⟨-, -, hpanic⟩ := hruns _ (.start (.ofState gateMap gateClosed)) rfl
    obtain ⟨c', x', hends, hunwound⟩ := hpanic Unit (jammed.behaviour none fun _ => pure ())
      ⟨(), []⟩ () () rfl (carry_jammed none _ _ hcommand)
    obtain ⟨rfl, rfl⟩ := hunwound.completes () rfl
    exact ⟨h, hmem, hkey, bs, otherwise, b, command, hbody, hb, hends⟩
  · obtain ⟨c', x', hinvokes⟩ := jammed_invokes hv hp
    have hcall := Host.Calls.transition hinvokes
    exact ⟨c', x', hcall, hcalls Unit Nat jammed _ c' _ x' _ hcall rfl⟩

end StateMachine
