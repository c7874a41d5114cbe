import StateMachine.Proofs.Program.Invocation
import StateMachine.Proofs.Validation

/-!
# Replays End

A guard may pop to a transition, which is then called in the state that was popped, and the guard
that answers there may pop in turn. The methods of a program call each other in this way, and
nothing keeps a machine from having a cycle of them. A call that is made on the way of another one
is a replay.

## Proof strategy

The measure is the stack. A body issues a transition last, behind a pop that went through
(`Host.passage_of_leads`), and whatever emptied the stack on the way would have made the pop fail
(`Destination.exists_top_of_pop`). So a replay begins in the state that was on top of the stack,
with the rest of the stack, whatever the options and the owner are. A chain of replays follows by
induction.

That a call is over at some time needs more: that it lands, and that what it issues can be called.
`Invocation.Fits` collects this, a replay keeps it, and the induction is on the chain of replays,
which is well-founded.

## Conventions

* No part of the host touches the machine.
* An `Invocation` is a call that is about to be made. `H.Replays p k k'` reads: the call `k` makes
  the call `k'`. `H.Replayed p n k k'` follows `n` such steps.
* Names of parameters that clash, and pops with the wrong number of arguments, are not found by
  validation. What they make of a program cannot be compiled.

## Main results

* `Host.Replays.exists_top`: **a replay takes the top of the stack**.
* `Host.Replayed.exists_popped`: a chain of replays takes one state for each.
* `Host.wellFounded_replays`: there is no endless chain.
* `Invocation.Fits.exists_invokes`: a call that can be made is over at some time.
* `replays_end`: all of this for a machine that was put together step by step.
-/

namespace StateMachine

open Program Execution Run

namespace Program

/-! ### What a pop that goes through leaves -/

section

variable {O : Type} {p : Program} {β : Behaviour O} {inDefault catching : Bool} {state : Place}
  {cs : List Command} {c c₁ : Context Place} {x x₁ : Observed O}

/-- Where commands leave something on a stack, they leave all of it. -/
theorem stackAfter_eq_of_getLast? {stack : List Place} {top : Place}
    (h : (stackAfter cs stack).getLast? = some top) : stackAfter cs stack = stack := by
  unfold stackAfter at h ⊢
  split_ifs at h ⊢
  · cases h
  · rfl

/-- Where a panic goes on, the result is one. -/
theorem Passage.result_eq_ok_of_resume {panics : Bool} {a : Passage O}
    (h : (a.resume panics).result = .ok ()) : a.result = .ok () := by
  cases panics with
  | false => exact h
  | true => cases h

/-- **A pop arrives on top of the stack**, and leaves the rest of it. -/
theorem Destination.exists_top_of_arrive {issue : Option Issue}
    (h : ((Destination.pop issue).arrive β p inDefault state c x).result = .ok ()) :
    ∃ top, c.stack.getLast? = some top ∧
      (Destination.pop issue).arrive β p inDefault state c x =
        ⟨.ok (), { c with stack := c.stack.dropLast, state? := some top }, x⟩ := by
  unfold arrive at h ⊢
  cases htop : c.stack.getLast? with
  | none =>
      rw [htop] at h
      cases h
  | some top => exact ⟨top, rfl, rfl⟩

/-- **A pop that goes through takes the top of the stack**, and nothing has emptied the stack
before. -/
theorem Destination.exists_top_of_pop {issue : Option Issue}
    (h : ((Destination.pop issue).passage β p catching inDefault state cs c x).result = .ok ()) :
    let a := (Destination.pop issue).passage β p catching inDefault state cs c x
    ∃ top, c.stack = a.context.stack ++ [top] ∧ a.context.state? = some top := by
  have hleft : ((Destination.pop issue).depart β p inDefault state c x).context.stack =
      stackAfter (β.carry state (p.exitCommands state) x.owner).commands c.stack := rfl
  unfold passage Passage.next at h ⊢
  generalize (Destination.pop issue).depart β p inDefault state c x = left at h hleft ⊢
  obtain ⟨result, c₁, x₁⟩ := left
  cases result with
  | error i => cases h
  | ok _ =>
      simp only at h hleft ⊢
      cases hthrough : (β.carry state cs x₁.owner).panics && !catching with
      | true =>
          rw [hthrough, if_pos rfl] at h
          cases h
      | false =>
          rw [hthrough, if_neg Bool.false_ne_true] at h
          rw [if_neg Bool.false_ne_true]
          obtain ⟨top, htop, harrive⟩ := exists_top_of_arrive (Passage.result_eq_ok_of_resume h)
          have hacted : stackAfter (β.carry state cs x₁.owner).commands c₁.stack = c.stack := by
            have hstack := stackAfter_eq_of_getLast? htop
            rw [contextAfter, hstack, hleft] at htop
            rw [hstack, hleft]
            exact stackAfter_eq_of_getLast? htop
          rw [Passage.context_resume, harrive]
          refine ⟨top, ?_, rfl⟩
          simp only [contextAfter, hacted] at htop ⊢
          exact (List.dropLast_append_getLast? top htop).symm

end

/-! ### What a body leads to -/

section

variable {O V : Type} {H : Host O V} {p : Program} {o : OutputOptions} {inDefault : Bool}
  {t : Transition} {move : Move} {cs : List Command} {place : Place} {site : Site}
  {frame : Frame V} {c c₁ : Context Place} {x x₁ : Observed O}

/-- How far commands are carried out is up to the owner alone. -/
theorem Behaviour.carry_congr {β β' : Behaviour O} (h : β.perform = β'.perform) :
    β.carry = β'.carry := by
  have heffect : β.effect = β'.effect := by
    funext state command owner
    cases command <;> simp only [effect, h]
  funext state cs
  induction cs with
  | nil => rfl
  | cons command rest ih =>
      funext owner
      simp only [carry, heffect, ih]

/-- So is a passage. What is issued has no part in it. -/
theorem Destination.passage_congr {β β' : Behaviour O} (h : β.perform = β'.perform)
    (catching : Bool) (d : Destination) :
    d.passage β p catching inDefault place cs c x =
      d.passage β' p catching inDefault place cs c x := by
  have hcarry := Behaviour.carry_congr h
  cases d <;>
    simp only [passage, depart, arrive, Behaviour.leave, Behaviour.enter, Behaviour.block, hcarry]

/-- The passage of the body of a guard. -/
def Host.passage (H : Host O V) (p : Program) (o : OutputOptions) (site : Site) (frame : Frame V)
    (inDefault : Bool) (place : Place) (move : Move) (cs : List Command) (c : Context Place)
    (x : Observed O) : Passage O :=
  move.destination.passage (H.behaviour (some (site, frame)) fun _ => pure ()) p (!o.noCatch)
    inDefault place cs c x

/-- Whatever issuing a transition means, a body goes this passage. -/
theorem Host.leads_run (H : Host O V) (p : Program) (o : OutputOptions) (site : Site)
    (frame : Frame V) (inDefault : Bool) (t : Transition) (move : Move) (cs : List Command)
    (x : Observed O) (hstate : c.state? = some place) (issue : Issue → Job O Unit) :
    let a := H.passage p o site frame inDefault place move cs c x
    Leads (H.run p issue place (.body site frame (body o inDefault t move cs))) c x a.context
      a.seen (a.onward (H.behaviour (some (site, frame)) issue) move) := by
  have hleads : Leads (H.run p issue place (.body site frame (body o inDefault t move cs))) c x
      _ _ _ :=
    leads_runBody hstate move
  have hpassage : move.destination.passage (H.behaviour (some (site, frame)) issue) p (!o.noCatch)
      inDefault place cs c x = H.passage p o site frame inDefault place move cs c x :=
    Destination.passage_congr (by rfl) _ _
  rw [hpassage] at hleads
  exact hleads

/-- A move that pops to no transition issues nothing. -/
theorem Behaviour.issued_eq_pure {β : Behaviour O} (h : ∀ i, move ≠ .pop (some i)) :
    β.issued move = pure () := by
  unfold issued
  split
  · next i => exact absurd rfl (h i)
  · rfl

/-- A pop that goes through comes to the transition that it issues. -/
theorem Host.leads_issue {i : Issue} (hstate : c.state? = some place)
    (hok : (H.passage p o site frame inDefault place (.pop (some i)) cs c x).result = .ok ())
    (issue : Issue → Job O Unit) :
    let a := H.passage p o site frame inDefault place (.pop (some i)) cs c x
    Leads (H.run p issue place (.body site frame (body o inDefault t (.pop (some i)) cs))) c x
      a.context a.seen (issue i) := by
  have hleads := H.leads_run p o site frame inDefault t (.pop (some i)) cs x hstate issue
  simp only [Passage.onward, hok] at hleads
  exact hleads

/-- A run that comes to a transition to issue comes to this one only, and to one context. -/
theorem issue_unique {r : (Issue → Job O Unit) → Job O Unit} {i i' : Issue} {c₂ : Context Place}
    {x₂ : Observed O} (h : ∀ issue, Leads (r issue) c x c₁ x₁ (issue i))
    (h' : ∀ issue, Leads (r issue) c x c₂ x₂ (issue i')) : i' = i ∧ c₂ = c₁ ∧ x₂ = x₁ := by
  obtain ⟨-, rfl, rfl⟩ := ((h fun _ => pure ()).ends (ends_pure ())).unique
    ((h' fun _ => pure ()).ends (ends_pure ()))
  refine ⟨?_, rfl, rfl⟩
  by_contra hne
  -- if issuing the one panics and issuing the other does not, the run cannot come to both
  classical
  let issue : Issue → Job O Unit := fun j => if j = i then pure () else throw .panic
  have hends : Ends (issue i) c₁ x₁ (.ok ()) c₁ x₁ := by
    simp only [issue, if_pos]
    exact ends_pure ()
  have hpanic : Ends (issue i') c₁ x₁ (.error .panic) c₁ x₁ := by
    simp only [issue, if_neg hne]
    exact ends_throw .panic
  obtain ⟨hresult, -⟩ := ((h issue).ends hends).unique ((h' issue).ends hpanic)
  cases hresult

/-- **A body ends, or comes to the transition that its move issues**, where its passage ends. -/
theorem Host.ends_or_issues (H : Host O V) (p : Program) (site : Site) (frame : Frame V)
    (x : Observed O) {statements : List Statement} (hstate : c.state? = some place)
    (hbody : statements = body o inDefault t move cs) :
    (∃ result c' x', ∀ issue,
      Ends (H.run p issue place (.body site frame statements)) c x result c' x') ∨
      ∃ i c' x', move = .pop (some i) ∧
        H.passage p o site frame inDefault place move cs c x = ⟨.ok (), c', x'⟩ ∧ ∀ issue,
          Leads (H.run p issue place (.body site frame statements)) c x c' x' (issue i) := by
  subst hbody
  have honward := fun issue => H.leads_run p o site frame inDefault t move cs x hstate issue
  cases hpassage : H.passage p o site frame inDefault place move cs c x with
  | mk result c' x' =>
      simp only [hpassage] at honward
      cases result with
      | error i => exact .inl ⟨_, _, _, fun issue => (honward issue).ends (ends_throw i)⟩
      | ok _ =>
          by_cases hpops : ∃ i, move = .pop (some i)
          · obtain ⟨i, rfl⟩ := hpops
            exact .inr ⟨i, c', x', rfl, rfl, honward⟩
          · refine .inl ⟨.ok (), c', x', fun issue => ?_⟩
            have hleads := honward issue
            have hissued : (H.behaviour (some (site, frame)) issue).issued move = pure () :=
              Behaviour.issued_eq_pure fun i hmove => hpops ⟨i, hmove⟩
            simp only [Passage.onward, hissued] at hleads
            exact hleads.ends (ends_pure ())

/-- **A body that comes to a transition to issue has popped.** -/
theorem Host.passage_of_leads {i : Issue} (hstate : c.state? = some place)
    (hleads : ∀ issue, Leads
      (H.run p issue place (.body site frame (body o inDefault t move cs))) c x c₁ x₁ (issue i)) :
    move = .pop (some i) ∧
      H.passage p o site frame inDefault place move cs c x = ⟨.ok (), c₁, x₁⟩ := by
  rcases H.ends_or_issues p site frame x hstate rfl with
    ⟨result, c', x', hends⟩ | ⟨i', c', x', hmove, hpassage, hleads'⟩
  · -- a body that ends does so in one way, however what is issued would end
    have hquiet := (hleads fun _ => pure ()).ends (ends_pure ())
    have hpanic := (hleads fun _ => throw .panic).ends (ends_throw .panic)
    obtain ⟨hok, -⟩ := (hends _).unique hquiet
    obtain ⟨herror, -⟩ := (hends _).unique hpanic
    rw [hok] at herror
    cases herror
  · obtain ⟨rfl, rfl, rfl⟩ := issue_unique hleads hleads'
    exact ⟨hmove, hpassage⟩

/-- Its passage has taken the top of the stack. -/
theorem Host.exists_top_of_leads {i : Issue} (hstate : c.state? = some place)
    (hleads : ∀ issue, Leads
      (H.run p issue place (.body site frame (body o inDefault t move cs))) c x c₁ x₁ (issue i)) :
    ∃ top, c.stack = c₁.stack ++ [top] ∧ c₁.state? = some top := by
  obtain ⟨rfl, hpassage⟩ := Host.passage_of_leads hstate hleads
  have hcontext : (H.passage p o site frame inDefault place (.pop (some i)) cs c x).context = c₁ :=
    congrArg Passage.context hpassage
  rw [← hcontext]
  exact Destination.exists_top_of_pop (congrArg Passage.result hpassage)

end

/-! ### Replays -/

/-- A call of a transition: its name and arguments, the context in which it is called, and the
owner with what was seen. -/
structure Invocation (O V : Type) where
  name : String
  args : List V
  context : Context Place
  seen : Observed O

section

variable {O V : Type} {H : Host O V} {p : Program} {k k' k'' : Invocation O V} {n : Nat}

/-- How many states there are to return to. -/
def Invocation.depth (k : Invocation O V) : Nat :=
  k.context.stack.length

/-- **One call makes another one** before it is over: it lands at a body that comes to a
transition to issue, and this is called in turn. -/
inductive Host.Replays (H : Host O V) (p : Program) : Invocation O V → Invocation O V → Prop
  | issue {name : String} {args values : List V} {c c₁ : Context Place} {x x₁ : Observed O}
      {place : Place} {truth : Truth} {owner owner₁ : O} {site : Site} {frame : Frame V}
      {statements : List Statement} {i : Issue} :
      c.state? = some place → H.judge name place args x.owner = (some truth, owner) →
      Executes p truth name place args (.body site frame statements) →
      (∀ issue, Leads (H.run p issue place (.body site frame statements))
        (c.setTransition name) { x with owner } c₁ x₁ (issue i)) →
      H.evaluate site frame i.arguments x₁.owner = (some values, owner₁) →
      Replays H p ⟨name, args, c, x⟩ ⟨i.transition, values, c₁, { x₁ with owner := owner₁ }⟩

/-- `H.Replayed p n k k'` reads: `n` calls after the call `k`, each made by the one before, the
call `k'` is made. -/
inductive Host.Replayed (H : Host O V) (p : Program) :
    Nat → Invocation O V → Invocation O V → Prop
  | refl (k : Invocation O V) : Replayed H p 0 k k
  | step {n : Nat} {k k' k'' : Invocation O V} :
      Replayed H p n k k' → H.Replays p k' k'' → Replayed H p (n + 1) k k''

/-- **A call is made in the state on top of the stack**, with the rest of the stack below it. -/
theorem Host.Replays.exists_top {v : Validated} {o : OutputOptions} (hmakes : v.Makes o p)
    (h : H.Replays p k k') :
    ∃ top, k.context.stack = k'.context.stack ++ [top] ∧ k'.context.state? = some top := by
  cases h with
  | issue hstate _ hexecutes hleads _ =>
      obtain ⟨inDefault, t, move, cs, rfl⟩ := hexecutes.exists_body hmakes
      have htop := Host.exists_top_of_leads (by exact hstate) hleads
      exact htop

/-- **Each call takes a state from the stack.** -/
theorem Host.Replayed.exists_popped {v : Validated} {o : OutputOptions} (hmakes : v.Makes o p)
    (h : H.Replayed p n k k') :
    ∃ popped, popped.length = n ∧ k.context.stack = k'.context.stack ++ popped := by
  induction h with
  | refl k => exact ⟨[], rfl, (List.append_nil _).symm⟩
  | step _ hreplays ih =>
      obtain ⟨popped, hlength, hstack⟩ := ih
      obtain ⟨top, htop, -⟩ := hreplays.exists_top hmakes
      refine ⟨top :: popped, ?_, ?_⟩
      · rw [List.length_cons, hlength]
      · rw [hstack, htop, List.append_assoc, List.singleton_append]

/-- So there are at most as many calls as there were states to return to. -/
theorem Host.Replayed.le_depth {v : Validated} {o : OutputOptions} (hmakes : v.Makes o p)
    (h : H.Replayed p n k k') : n ≤ k.depth := by
  obtain ⟨popped, hlength, hstack⟩ := h.exists_popped hmakes
  rw [Invocation.depth, hstack, List.length_append]
  omega

/-- **No call makes calls without end.** -/
theorem Host.wellFounded_replays {v : Validated} {o : OutputOptions} (hmakes : v.Makes o p)
    (H : Host O V) : WellFounded fun k' k => H.Replays p k k' := by
  refine Subrelation.wf (fun {k' k} h => ?_) (measure Invocation.depth).wf
  obtain ⟨top, hstack, -⟩ := h.exists_top hmakes
  have hdepth : k.depth = k'.depth + 1 := by
    rw [Invocation.depth, hstack, List.length_append]
    rfl
  show k'.depth < k.depth
  omega

/-- A call is over when the call that it makes is over. -/
theorem Host.Replays.invokes (h : H.Replays p k k') {result : Except Interrupt Unit}
    {c' : Context Place} {x' : Observed O}
    (hinvokes : H.Invokes p k'.name k'.args k'.context k'.seen result c' x') :
    H.Invokes p k.name k.args k.context k.seen result (settled result c') x' := by
  cases h with
  | issue hstate hjudge hexecutes hleads hvalues =>
      exact .issues hstate hjudge hexecutes hleads hvalues hinvokes

end

end Program

/-! ### Calls that fit -/

/-- Wherever the transition `name` is declared, it has `n` parameters. -/
def Machine.Takes (m : Machine) (name : String) (n : Nat) : Prop :=
  ∀ map ∈ m.maps, ∀ s ∈ map.allStates, ∀ t ∈ s.transitions, t.name = name →
    t.parameters.length = n

instance (m : Machine) (name : String) (n : Nat) : Decidable (m.Takes name n) :=
  inferInstanceAs <| Decidable <|
    ∀ map ∈ m.maps, ∀ s ∈ map.allStates, ∀ t ∈ s.transitions, t.name = name →
      t.parameters.length = n

/-- Every pop gives the transition that it issues one argument for each parameter. -/
def Machine.ArgumentsFit (m : Machine) : Prop :=
  ∀ map ∈ m.maps, ∀ s ∈ map.allStates, ∀ t ∈ s.transitions, ∀ g ∈ t.guards,
    ∀ name ∈ g.popTransition?, m.Takes name g.popArguments.length

instance (m : Machine) : Decidable m.ArgumentsFit :=
  inferInstanceAs <| Decidable <|
    ∀ map ∈ m.maps, ∀ s ∈ map.allStates, ∀ t ∈ s.transitions, ∀ g ∈ t.guards,
      ∀ name ∈ g.popTransition?, m.Takes name g.popArguments.length

namespace Program

/-- A host finds one value for each argument. -/
def Host.EvaluatesEach {O V : Type} (H : Host O V) : Prop :=
  ∀ site frame arguments owner values owner',
    H.evaluate site frame arguments owner = (some values, owner') →
      values.length = arguments.length

/-- The call can be made: there is such a public method, it takes as many arguments, and the
states are those of the machine. -/
structure Invocation.Fits {O V : Type} (m : Machine) (k : Invocation O V) : Prop where
  issuable : m.IsIssuable k.name
  takes : m.Takes k.name k.args.length
  state : ∀ place ∈ k.context.state?, place ∈ m.places
  stack : ∀ place ∈ k.context.stack, place ∈ m.places

/-- What a guard issues that pops to a transition. -/
theorem issue_of_destination? {m : Machine} {map : Map} {g : Guard} {i : Issue}
    (h : g.destination? m map = some (.pop (some i))) :
    ∃ name, g.popTransition? = some name ∧ i.transition = name ∧
      i.arguments.length = g.popArguments.length := by
  have hissue : ∃ name, g.popTransition? = some name ∧ Issue.ofGuard g name = .ok i := by
    unfold Guard.destination? at h
    unfold Guard.popTransition?
    cases htransfer : g.transfer with
    | set e => cases e <;> simp [htransfer] at h
    | push e pushed => cases e <;> simp [htransfer, Option.bind_eq_some_iff] at h
    | pop transition arguments =>
        cases transition with
        | none => simp [htransfer] at h
        | some name => exact ⟨name, rfl, toOption_eq_some_iff.mp (by simpa [htransfer] using h)⟩
  obtain ⟨name, hname, hissue⟩ := hissue
  simp only [Issue.ofGuard, bind_eq_ok_iff, pure, Except.pure, Except.ok.injEq] at hissue
  obtain ⟨method, -, arguments, harguments, rfl⟩ := hissue
  exact ⟨name, hname, rfl, (mapM_eq_ok_iff.mp harguments).length_eq.symm⟩

section

variable {O V : Type} {H : Host O V} {v : Validated} {o : OutputOptions} {p : Program}
  {k k' k'' : Invocation O V} {place : Place}

/-- A call that fits takes the first candidate that fires, of those of a state. -/
theorem Invocation.Fits.exists_executes_iff (hfits : k.Fits v.machine) (hmakes : v.Makes o p)
    (hbuilt : v.machine.Built) (happart : v.machine.ParametersApart)
    (hstate : k.context.state? = some place) (truth : Truth) :
    ∃ map ∈ v.machine.maps, ∃ s ∈ map.states, ∀ l,
      Executes p truth k.name place k.args l ↔
        FirstOf truth v.machine o map place k.args (Candidate.all map s k.name)
          (· = .unhandled place) l := by
  obtain ⟨⟨map, s⟩, hs, rfl⟩ := List.mem_map.mp (hfits.state place hstate)
  obtain ⟨hmap, hordinary⟩ := Machine.mem_states_iff.mp hs
  obtain ⟨hname, t, ⟨map', hmap', s', hs', ht⟩, htname⟩ := hfits.issuable
  have hargs : k.args.length = t.parameters.length :=
    (hfits.takes map' hmap' s' hs' t ht htname).symm
  refine ⟨map, hmap, s, hordinary, fun l => ?_⟩
  rw [← htname]
  exact executes_iff_firstOf hmakes hbuilt.wellFormed happart hs hmap' hs' ht (htname ▸ hname)
    hargs

/-- **It lands** at the body of a guard of the machine, or is unhandled. -/
theorem Invocation.Fits.exists_landing (hfits : k.Fits v.machine) (hmakes : v.Makes o p)
    (hbuilt : v.machine.Built) (happart : v.machine.ParametersApart)
    (hstate : k.context.state? = some place) (truth : Truth) :
    Executes p truth k.name place k.args (.unhandled place) ∨
      ∃ map ∈ v.machine.maps, ∃ s ∈ map.allStates, ∃ t ∈ s.transitions, ∃ g ∈ t.guards,
        ∃ b site frame, Branch.ofGuard v.machine o map s t g = .ok b ∧
          Executes p truth k.name place k.args (.body site frame b.statements) := by
  obtain ⟨map, hmap, s, hs, hexecutes⟩ :=
    hfits.exists_executes_iff hmakes hbuilt happart hstate truth
  simp only [hexecutes, FirstOf]
  cases hfind : (Candidate.all map s k.name).find? (Candidate.fires truth map) with
  | none => exact .inl trivial
  | some c =>
      have hmem := List.mem_of_find?_eq_some hfind
      obtain ⟨hstate', htransition, hguard⟩ := Candidate.mem_all hs hmem
      obtain ⟨l, b, bs, hb, hbs, rfl⟩ :=
        Candidate.exists_runs hmakes hmap hs hmem place k.args
      exact .inr ⟨map, hmap, c.state, hstate', c.transition, htransition, c.guard, hguard, b, _, _,
        hb, b, bs, hb, hbs, rfl⟩

/-- It lands in one way only. -/
theorem Invocation.Fits.landing_unique (hfits : k.Fits v.machine) (hmakes : v.Makes o p)
    (hbuilt : v.machine.Built) (happart : v.machine.ParametersApart)
    (hstate : k.context.state? = some place) {truth : Truth} {l l' : Landing V}
    (hl : Executes p truth k.name place k.args l)
    (hl' : Executes p truth k.name place k.args l') : l = l' := by
  obtain ⟨map, -, s, -, hexecutes⟩ :=
    hfits.exists_executes_iff hmakes hbuilt happart hstate truth
  rw [hexecutes, FirstOf] at hl hl'
  cases hfind : (Candidate.all map s k.name).find? (Candidate.fires truth map) with
  | none =>
      rw [hfind] at hl hl'
      exact hl.trans hl'.symm
  | some c =>
      rw [hfind] at hl hl'
      exact hl.unique hl'

/-- **A call that fits makes at most one call.** -/
theorem Host.Replays.unique (hfits : k.Fits v.machine) (hmakes : v.Makes o p)
    (hbuilt : v.machine.Built) (happart : v.machine.ParametersApart)
    (h : H.Replays p k k') (h' : H.Replays p k k'') : k' = k'' := by
  cases h with
  | issue hstate hjudge hexecutes hleads hvalues =>
      cases h' with
      | issue hstate' hjudge' hexecutes' hleads' hvalues' =>
          obtain rfl := Option.some.inj (hstate.symm.trans hstate')
          obtain ⟨htruth, rfl⟩ := Prod.mk.inj (hjudge.symm.trans hjudge')
          obtain rfl := Option.some.inj htruth
          obtain ⟨rfl, rfl, rfl⟩ := Landing.body.inj
            (hfits.landing_unique hmakes hbuilt happart hstate hexecutes hexecutes')
          obtain ⟨rfl, rfl, rfl⟩ := issue_unique hleads hleads'
          obtain ⟨hsome, rfl⟩ := Prod.mk.inj (hvalues.symm.trans hvalues')
          obtain rfl := Option.some.inj hsome
          rfl

/-- **What it issues fits**, in the state on top of the stack. -/
theorem Invocation.Fits.issued (hfits : k.Fits v.machine) (hconsistent : v.machine.Consistent)
    (harguments : v.machine.ArgumentsFit) {map : Map} (hmap : map ∈ v.machine.maps) {s : State}
    (hs : s ∈ map.allStates) {t : Transition} (ht : t ∈ s.transitions) {g : Guard}
    (hg : g ∈ t.guards) {i : Issue} (hissue : g.destination? v.machine map = some (.pop (some i)))
    {values : List V} (hvalues : values.length = i.arguments.length) {c : Context Place}
    {top : Place} (hstack : k.context.stack = c.stack ++ [top]) (htop : c.state? = some top)
    (x : Observed O) : Invocation.Fits v.machine ⟨i.transition, values, c, x⟩ := by
  obtain ⟨name, hname, rfl, hlength⟩ := issue_of_destination? hissue
  refine ⟨hconsistent.issues map hmap s hs t ht g hg _ hname, ?_, fun place hplace => ?_,
    fun place hplace => ?_⟩
  · rw [hvalues, hlength]
    exact harguments map hmap s hs t ht g hg _ hname
  · obtain rfl := Option.some.inj (htop.symm.trans hplace)
    exact hfits.stack top (by rw [hstack]; exact List.mem_concat_self)
  · exact hfits.stack place (by rw [hstack]; exact List.mem_append_left _ hplace)

/-- **A call that fits is over, or makes one that fits.** -/
theorem Invocation.Fits.invokes_or_replays (hfits : k.Fits v.machine) (hmakes : v.Makes o p)
    (hbuilt : v.machine.Built) (hconsistent : v.machine.Consistent)
    (happart : v.machine.ParametersApart) (harguments : v.machine.ArgumentsFit)
    (hvalues : H.EvaluatesEach) :
    (∃ result c' x', H.Invokes p k.name k.args k.context k.seen result c' x') ∨
      ∃ k', H.Replays p k k' ∧ k'.Fits v.machine := by
  cases hstate : k.context.state? with
  | none => exact .inl ⟨_, _, _, .refused hstate⟩
  | some place =>
      cases hjudge : H.judge k.name place k.args k.seen.owner with
      | mk truth? owner =>
          cases truth? with
          | none => exact .inl ⟨_, _, _, .unjudged hstate hjudge⟩
          | some truth =>
              rcases hfits.exists_landing hmakes hbuilt happart hstate truth with
                hexecutes | ⟨map, hmap, s, hs, t, ht, g, hg, b, site, frame, hb, hexecutes⟩
              · obtain ⟨i, hends⟩ := H.ends_refuse (p := p) place
                exact .inl ⟨_, _, _, .ends hstate hjudge hexecutes fun issue => hends⟩
              · obtain ⟨cs, move, -, hdestination, hbody⟩ := Branch.ofGuard_eq_ok hb
                have hset : (k.context.setTransition k.name).state? = some place := hstate
                rcases H.ends_or_issues p site frame { k.seen with owner } hset hbody with
                  ⟨result, c', x', hends⟩ | ⟨i, c', x', rfl, -, hleads⟩
                · exact .inl ⟨_, _, _, .ends hstate hjudge hexecutes hends⟩
                · obtain ⟨top, hstack, htop⟩ :=
                    Host.exists_top_of_leads hset (hbody ▸ hleads)
                  cases hevaluate : H.evaluate site frame i.arguments x'.owner with
                  | mk values? owner' =>
                      cases values? with
                      | none =>
                          exact .inl ⟨_, _, _,
                            .unvalued hstate hjudge hexecutes hleads hevaluate⟩
                      | some values =>
                          refine .inr ⟨_, .issue hstate hjudge hexecutes hleads hevaluate, ?_⟩
                          exact hfits.issued hconsistent harguments hmap hs ht hg hdestination
                            (hvalues _ _ _ _ _ _ hevaluate) hstack htop _

/-- **Every call that fits is over at some time.** -/
theorem Invocation.Fits.exists_invokes (hfits : k.Fits v.machine) (hmakes : v.Makes o p)
    (hbuilt : v.machine.Built) (hconsistent : v.machine.Consistent)
    (happart : v.machine.ParametersApart) (harguments : v.machine.ArgumentsFit)
    (hvalues : H.EvaluatesEach) :
    ∃ result c' x', H.Invokes p k.name k.args k.context k.seen result c' x' := by
  induction k using (H.wellFounded_replays hmakes).induction with
  | _ k ih =>
      rcases hfits.invokes_or_replays hmakes hbuilt hconsistent happart harguments hvalues with
        hinvokes | ⟨k', hreplays, hfits'⟩
      · exact hinvokes
      · obtain ⟨result, c', x', hinvokes⟩ := ih k' hreplays hfits'
        exact ⟨_, _, _, hreplays.invokes hinvokes⟩

end

end Program

/-! ### Replays end -/

/-- **Replays end.** Whatever the host of a program does and whatever conditions hold, each call
of a transition that is made on the way of another one has popped a state: after `n` calls, one
made by the other, the stack is what was there at first without its last `n` states. So there are
at most as many as there were states to return to, and there is no endless chain of them.

Where the program can be compiled, a call of a public method makes at most one call itself, and is
over at some time: if parameters have names of their own and pops give as many arguments as there
are parameters, and if the states are those of the machine. -/
theorem replays_end {m : Machine} {v : Validated} {o : OutputOptions} {p : Program}
    (hbuilt : m.Built) (hvalid : m.validate = .ok v) (hprogram : v.program o = .ok p)
    {O V : Type} (H : Host O V) :
    (∀ n k k', H.Replayed p n k k' →
      n ≤ k.depth ∧
        ∃ popped, popped.length = n ∧ k.context.stack = k'.context.stack ++ popped) ∧
      (WellFounded fun k' k => H.Replays p k k') ∧
      (m.ParametersApart → ∀ k : Invocation O V, k.Fits m → ∀ k' k'', H.Replays p k k' →
        H.Replays p k k'' → k' = k'') ∧
      (m.ParametersApart → m.ArgumentsFit → H.EvaluatesEach → ∀ k : Invocation O V, k.Fits m →
        ∃ result c' x', H.Invokes p k.name k.args k.context k.seen result c' x') := by
  have hconsistent : m.Consistent :=
    Machine.consistent_iff.mpr (hbuilt.wellFormed.exists_validate_eq_ok_iff.mp ⟨v, hvalid⟩)
  obtain rfl := Machine.machine_of_validate hvalid
  have hmakes := Validated.makes_of_program hprogram
  refine ⟨fun n k k' h => ⟨h.le_depth hmakes, h.exists_popped hmakes⟩,
    H.wellFounded_replays hmakes, ?_, ?_⟩
  · intro happart k hfits k' k'' h h'
    exact h.unique hfits hmakes hbuilt happart h'
  · intro happart harguments hvalues k hfits
    exact hfits.exists_invokes hmakes hbuilt hconsistent happart harguments hvalues

/-! ### A shaft -/

/-- The guard that climbs to the ledge above, and from there further on. -/
def shaftClimbing : Guard :=
  .make "" (.pop (some "climb") []) 1 []

/-- The transition of that guard. -/
def shaftClimb : Transition := { name := "climb", guards := [shaftClimbing] }

/-- From a ledge, one can dig down to the next one. -/
def shaftDig : Transition :=
  { name := "dig", guards := [.make "" (.push .nil (.unqualified "Ledge")) 2 []] }

/-- A ledge of the shaft. -/
def shaftLedge : State :=
  { className := "Ledge", transitions := [shaftClimb, shaftDig] }

/-- The map of the shaft. -/
def shaftMap : Map := { name := "Shaft", states := [shaftLedge] }

/-- A shaft that is dug as deep as one likes. -/
def shaft : Machine :=
  Machine.setStart { context := "Miner", maps := [shaftMap] } "Ledge" 0

/-- A host to which no condition holds, and whose owner does nothing. -/
def calm : Host Unit Nat where
  roster := idle.roster
  judge _ _ _ o := (some fun _ _ => false, o)
  perform _ _ _ o := (o, false)
  evaluate _ _ arguments o := (some (arguments.map fun _ => 0), o)

/-- The shaft can be put together. -/
theorem shaft_built : shaft.Built := by
  have hledge : shaftLedge.Built :=
    .addTransition
      (.addTransition (.new "Ledge" 0) (.addGuard (.new "climb" 0) (.make "" _ 1 _) rfl) rfl)
      (.addGuard (.new "dig" 0) (.make "" _ 2 _) rfl) rfl
  have hmap : shaftMap.Built :=
    .addState (.new "Shaft" 0) hledge
      (Map.addState_eq_ok_iff.mpr (.inr ⟨by decide, by decide, rfl⟩))
  exact .setStart "Ledge" 0 (.addMap (.new "Miner") hmap rfl)

/-- The shaft is valid, and there is a program for it. -/
theorem shaft_program : ∃ v p, shaft.validate = .ok v ∧ v.program {} = .ok p :=
  Machine.exists_program (by decide +kernel)

/-- A call to climb, on a ledge with others above it. -/
structure Climbs (k : Invocation Unit Nat) (above : Nat) : Prop where
  name : k.name = "climb"
  args : k.args = []
  state : k.context.state? = some (.ofState shaftMap shaftLedge)
  stack : k.context.stack = List.replicate above (.ofState shaftMap shaftLedge)

/-- Climbing pops, and issues the transition again. -/
theorem shaft_climb_passage {v : Validated} {p : Program} (hv : shaft.validate = .ok v)
    (hp : v.program {} = .ok p) {b : Branch}
    (hb : Branch.ofGuard shaft {} shaftMap shaftLedge shaftClimb shaftClimbing = .ok b) :
    ∃ i, b.statements = body {} false shaftClimb (.pop (some i)) [] ∧ i.transition = "climb" ∧
      i.arguments.length = 0 ∧
      ∀ (site : Site) (frame : Frame Nat) (c : Context Place) (x : Observed Unit),
        c.stack ≠ [] →
        (calm.passage p {} site frame false (.ofState shaftMap shaftLedge) (.pop (some i)) [] c
          x).result = .ok () := by
  obtain ⟨cs, move, hcs, hdestination, hbody⟩ := Branch.ofGuard_eq_ok hb
  obtain rfl : [] = cs := Except.ok.inj hcs
  obtain ⟨i, -, hmove⟩ : ∃ i, (Issue.ofGuard shaftClimbing "climb").toOption = some i ∧
      Destination.pop (some i) = move.destination :=
    Option.map_eq_some_iff.mp hdestination
  obtain rfl : move = .pop (some i) := by
    cases move <;> cases hmove
    rfl
  obtain ⟨name, hname, htransition, hlength⟩ := issue_of_destination? hdestination
  obtain rfl : "climb" = name := Option.some.inj hname
  refine ⟨i, hbody, htransition, hlength, fun site frame c x hne => ?_⟩
  have hexit : [] = p.exitCommands (.ofState shaftMap shaftLedge) := by
    have hmakes := Validated.makes_of_program hp
    have hwf := shaft_built.wellFormed
    rw [← Machine.machine_of_validate hv] at hwf
    have hs : (shaftMap, shaftLedge) ∈ v.machine.states := by
      rw [Machine.machine_of_validate hv]
      exact List.mem_singleton_self _
    exact Except.ok.inj (hmakes.commands_ofState hwf hs).2
  have htop : c.stack.getLast? = some (c.stack.getLast hne) := List.getLast?_eq_some_getLast hne
  simp [Host.passage, Destination.passage, Destination.depart, Destination.leaves,
    Move.destination, Behaviour.leave, Behaviour.block, ← hexit, Behaviour.carry, Passage.next,
    raised, contextAfter, Destination.arrive, htop, Passage.resume]

/-- **A climb replays itself** as long as there is a ledge above. -/
theorem shaft_replays {v : Validated} {p : Program} (hv : shaft.validate = .ok v)
    (hp : v.program {} = .ok p) {k : Invocation Unit Nat} {above : Nat} (h : Climbs k (above + 1)) :
    ∃ k', calm.Replays p k k' ∧ Climbs k' above := by
  obtain ⟨name, args, c, x⟩ := k
  obtain ⟨rfl, rfl, hstate, hstack⟩ : name = "climb" ∧ args = [] ∧
      c.state? = some (.ofState shaftMap shaftLedge) ∧
      c.stack = List.replicate (above + 1) (.ofState shaftMap shaftLedge) :=
    ⟨h.name, h.args, h.state, h.stack⟩
  have hmachine := Machine.machine_of_validate hv
  have hmakes := Validated.makes_of_program hp
  have hbuilt := shaft_built
  have happart : shaft.ParametersApart := by decide +kernel
  have hmap : shaftMap ∈ shaft.maps := List.mem_singleton_self _
  rw [← hmachine] at hbuilt happart hmap
  have hordinary : shaftLedge ∈ shaftMap.states := List.mem_singleton_self _
  have hs : (shaftMap, shaftLedge) ∈ v.machine.states :=
    Machine.mem_states_iff.mpr ⟨hmap, hordinary⟩
  have hfind : ((Candidate.all shaftMap shaftLedge "climb").find?
      (Candidate.fires (fun _ _ => false) shaftMap)).map
        (fun c => (c.state, c.transition, c.guard)) =
      some (shaftLedge, shaftClimb, shaftClimbing) := by
    decide +kernel
  obtain ⟨found, hfound, heq⟩ := Option.map_eq_some_iff.mp hfind
  obtain ⟨hfoundState, htransition, hguard⟩ : found.state = shaftLedge ∧
      found.transition = shaftClimb ∧ found.guard = shaftClimbing := by
    simpa using heq
  obtain ⟨l, b, bs, hb, hbs, rfl⟩ := Candidate.exists_runs hmakes hmap hordinary
    (List.mem_of_find?_eq_some hfound) (.ofState shaftMap shaftLedge) ([] : List Nat)
  have hexecutes : Executes p (fun _ _ => false) "climb" (.ofState shaftMap shaftLedge) []
      (.body (found.site shaftMap) (frameOf bs (.ofState shaftMap shaftLedge) ([] : List Nat))
        b.statements) := by
    have hclimb : shaftClimb ∈ shaftLedge.transitions := List.mem_cons_self
    have hargs : ([] : List Nat).length = shaftClimb.parameters.length := rfl
    have hfound' : (Candidate.all shaftMap shaftLedge shaftClimb.name).find?
        (Candidate.fires (fun _ _ => false) shaftMap) = some found := hfound
    refine (executes_iff_firstOf hmakes hbuilt.wellFormed happart hs hmap
      (List.mem_append_right _ hordinary) hclimb (by decide) hargs).mpr ?_
    rw [FirstOf, hfound']
    exact ⟨b, bs, hb, hbs, rfl⟩
  rw [hmachine, hfoundState, htransition, hguard] at hb
  obtain ⟨i, hbody, hname, hlength, hok⟩ := shaft_climb_passage hv hp hb
  have hreplays : ∃ c' x', calm.Replays p ⟨"climb", [], c, x⟩
      ⟨i.transition, i.arguments.map fun _ => 0, c', x'⟩ := by
    have hne : (c.setTransition "climb").stack ≠ [] := by
      show c.stack ≠ []
      rw [hstack]
      exact List.cons_ne_nil _ _
    rw [hbody] at hexecutes
    exact ⟨_, _, .issue hstate rfl hexecutes (Host.leads_issue hstate (hok _ _ _ x hne)) rfl⟩
  obtain ⟨c', x', hreplays⟩ := hreplays
  obtain ⟨top, htop, hstate'⟩ := hreplays.exists_top hmakes
  have hsplit : c'.stack ++ [top] = List.replicate above (.ofState shaftMap shaftLedge) ++
      [.ofState shaftMap shaftLedge] := by
    rw [← List.replicate_succ', ← hstack]
    exact htop.symm
  obtain ⟨hrest, hlast⟩ := List.append_inj' hsplit rfl
  obtain rfl := List.singleton_inj.mp hlast
  exact ⟨_, hreplays, hname, List.map_eq_nil_iff.mpr (List.length_eq_zero_iff.mp hlength), hstate',
    hrest⟩

/-- From two ledges below the top, one call climbs twice more, and that is all: the third finds
no ledge above. -/
theorem shaft_climb_replays_twice :
    ∃ v p, shaft.Built ∧ shaft.validate = .ok v ∧ v.program {} = .ok p ∧
      shaft.ParametersApart ∧ shaft.ArgumentsFit ∧ calm.EvaluatesEach ∧
      ∃ k : Invocation Unit Nat, k.Fits shaft ∧ k.depth = 2 ∧
        (∃ k', calm.Replayed p 2 k k' ∧ k'.context.stack = []) ∧
        (∀ n k', calm.Replayed p n k k' → n ≤ 2) ∧
        ∃ result c' x', calm.Invokes p k.name k.args k.context k.seen result c' x' := by
  obtain ⟨v, p, hv, hp⟩ := shaft_program
  obtain ⟨hbound, -, -, hends⟩ := replays_end shaft_built hv hp calm
  have happart : shaft.ParametersApart := by decide +kernel
  have hfit : shaft.ArgumentsFit := by decide +kernel
  have hvalues : calm.EvaluatesEach := by
    intro site frame arguments owner values owner' h
    obtain ⟨h, -⟩ := Prod.mk.inj h
    obtain rfl := Option.some.inj h
    exact List.length_map _
  let ledge : Place := .ofState shaftMap shaftLedge
  let k : Invocation Unit Nat :=
    ⟨"climb", [], { Context.start ledge with stack := [ledge, ledge] }, ⟨(), []⟩⟩
  have hfits : k.Fits shaft := by
    have hplace : ledge ∈ shaft.places := List.mem_singleton_self _
    refine ⟨by decide +kernel, by decide +kernel, fun place hplace' => ?_, fun place hplace' => ?_⟩
    · obtain rfl := Option.some.inj hplace'
      exact hplace
    · obtain rfl : place = ledge := by simpa [k] using hplace'
      exact hplace
  have hclimbs : Climbs k 2 := ⟨rfl, rfl, rfl, rfl⟩
  obtain ⟨k₁, hreplays, hclimbs₁⟩ := shaft_replays hv hp hclimbs
  obtain ⟨k₂, hreplays', hclimbs₂⟩ := shaft_replays hv hp hclimbs₁
  refine ⟨v, p, shaft_built, hv, hp, happart, hfit, hvalues, k, hfits, rfl, ?_, ?_, ?_⟩
  · exact ⟨k₂, .step (.step (.refl k) hreplays) hreplays', hclimbs₂.stack⟩
  · intro n k' h
    exact (hbound n k k' h).1
  · exact hends happart hfit hvalues k hfits

end StateMachine
