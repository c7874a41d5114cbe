import StateMachine.Proofs.Program.Course

/-!
# Panicking Actions

The actions of a guard run while there is no current state. If one of them panics, and panics
are caught, the transition is completed all the same: the machine goes where it would have
gone if the actions had ended before the one that panicks. The panic goes on in the end, and
nothing is issued.

## Proof strategy

The passage of a body is the course for the actions that are carried out, and the last of
these panicked. A command that panics does not empty the stack, so that this course leads
where the course for the actions before leads (`Destination.context_course_concat`).

## Conventions

* `g.cutAt n` is the guard `g` with its first `n` actions alone, and with nothing to issue.
* The actions on the way out and in may panic as well. A guard's actions only run if the exit
  actions are let through. If the entry actions are not, they are still begun.

## Main results

* `Branch.ofGuard_cutAt`: what the branches of a guard and of a cut guard have in common.
* `ends_runBody_panic`: **a body whose action panics** goes where the cut body goes.
* `isSome_state?_passage`: when panics are caught, there is a current state in the end.
-/

namespace StateMachine

open Program Execution

/-- A guard with its first `n` actions alone, and with nothing to issue. -/
def Guard.cutAt (g : Guard) (n : Nat) : Guard :=
  { g with
    actions := g.actions.take n
    transfer :=
      match g.transfer with
      | .pop _ _ => .pop none []
      | transfer => transfer }

namespace Program

open Run

/-! ### Cut guards -/

section

variable {m : Machine} {map : Map} {g : Guard}

/-- A cut guard goes to the same end state. -/
theorem endReference?_cutAt (g : Guard) (n : Nat) :
    (g.cutAt n).endReference? = g.endReference? := by
  unfold Guard.endReference? Guard.endState? Guard.cutAt
  cases g.transfer <;> rfl

/-- Its move is that of the guard without the transition that it issues. -/
theorem Move.ofGuard_cutAt {target : Option Variant} {move : Move}
    (h : Move.ofGuard m map g target = .ok move) (n : Nat) :
    Move.ofGuard m map (g.cutAt n) target = .ok move.withoutIssue := by
  unfold Move.ofGuard Guard.cutAt at *
  cases htransfer : g.transfer with
  | set e =>
      rw [htransfer] at h
      obtain rfl := Except.ok.inj h
      cases target <;> rfl
  | push e pushed =>
      rw [htransfer] at h
      obtain ⟨w, hw, hmove⟩ := bind_eq_ok_iff.mp h
      obtain rfl := Except.ok.inj hmove
      exact h
  | pop transition arguments =>
      rw [htransfer] at h
      obtain ⟨issue, -, hmove⟩ := bind_eq_ok_iff.mp h
      obtain rfl := Except.ok.inj hmove
      rfl

/-- **The branches of a guard and of a cut guard** have the same moves but for what is issued,
and the one has the first actions of the other. -/
theorem Branch.ofGuard_cutAt {o : OutputOptions} {s : State} {t : Transition} {b : Branch}
    (h : Branch.ofGuard m o map s t g = .ok b) :
    ∃ cs move, Command.ofActions g.actions = .ok cs ∧
      b.statements = body o s.isDefault t move cs ∧
      ∀ n, (g.cutAt n).destination? m map = some move.withoutIssue.destination ∧
        ∃ b', Branch.ofGuard m o map s t (g.cutAt n) = .ok b' ∧
          b'.statements = body o s.isDefault t move.withoutIssue (cs.take n) := by
  simp only [Branch.ofGuard, bind_eq_ok_iff, pure, Except.pure, Except.ok.injEq] at h
  obtain ⟨target, htarget, cs, hcs, move, hmove, condition, hcondition, rfl⟩ := h
  refine ⟨cs, move, hcs, rfl, fun n => ?_⟩
  have htarget' : (g.cutAt n).endReference?.mapM (Variant.ofReference m map (g.cutAt n).line) =
      .ok target := by
    rw [endReference?_cutAt]
    exact htarget
  have hmove' := Move.ofGuard_cutAt hmove n
  have hcs' : Command.ofActions (g.cutAt n).actions = .ok (cs.take n) :=
    mapM_eq_ok_iff.mpr (List.forall₂_take n (mapM_eq_ok_iff.mp hcs))
  have hcondition' : Branch.conditionOf (g.cutAt n) = .ok condition := hcondition
  refine ⟨Move.destination?_of_ofGuard htarget' hmove', ⟨condition, _⟩, ?_, rfl⟩
  simp only [Branch.ofGuard, bind_eq_ok_iff, pure, Except.pure, Except.ok.injEq]
  exact ⟨target, htarget', cs.take n, hcs', _, hmove', condition, hcondition', rfl⟩

end

/-! ### The command that panics -/

section

variable {O : Type} {p : Program} {β : Behaviour O} {inDefault : Bool} {state : Place}
  {c c' : Context Place} {x x' : Observed O} {cs before : List Command} {command : Command}
  {o₁ o₂ : O}

/-- The command that panics is the last one, and does not empty the stack. -/
theorem Behaviour.exists_of_carry {ks : List Command} {owner : O}
    (h : β.carry state cs owner = ⟨ks, o₂, true⟩) :
    ∃ before command, ks = before ++ [command] ∧ command.emptiesStack = false := by
  induction cs generalizing ks owner with
  | nil => cases h
  | cons first rest ih =>
      unfold carry at h
      cases heffect : β.effect state first owner with
      | mk owner' panics =>
          rw [heffect] at h
          cases panics with
          | true =>
              obtain rfl : [first] = ks := congrArg Carried.commands h
              refine ⟨[], first, rfl, ?_⟩
              cases first with
              | emptyStack => cases heffect
              | call method arguments => rfl
              | assign property value => rfl
          | false =>
              cases hrest : β.carry state rest owner' with
              | mk commands owner'' panics =>
                  simp only [hrest] at h
                  obtain ⟨rfl, rfl, rfl⟩ := Carried.mk.inj h
                  obtain ⟨before, command, rfl, hcommand⟩ := ih hrest
                  exact ⟨first :: before, command, rfl, hcommand⟩

/-- A command that does not empty the stack leaves of it what the commands before leave. -/
theorem stackAfter_concat (h : command.emptiesStack = false) (stack : List Place) :
    stackAfter (before ++ [command]) stack = stackAfter before stack := by
  simp [stackAfter, h]

/-- **Where one more command leads**: to the same context, but for the previous state, if it
does not empty the stack. -/
theorem Destination.context_course_concat (h : command.emptiesStack = false) (d : Destination) :
    (d.course p inDefault state (before ++ [command]) c).context =
      { (d.course p inDefault state before c).context with previous? := some state } := by
  cases d with
  | stay => simp [course, stackAfter_concat h]
  | go target =>
      by_cases hself : (inDefault && decide (state = target)) = true
      · simp only [course, if_pos hself]
        simp [stackAfter_concat h]
      · simp only [course, if_neg hself, stackAfter_append, stackAfter_concat h]
        simp
  | push target pushed => simp [course, stackAfter_concat h]
  | pop issue =>
      simp only [course, stackAfter_append, stackAfter_concat h]
      cases (stackAfter before (stackAfter (p.exitCommands state) c.stack)).getLast? <;> simp

/-! ### A body whose action panics -/

/-- What has become of a machine after the panic of the action `command`, which ran behind the
actions `before` of a guard with the destination `d` and left the owner `o₂`. -/
structure Unwound (β : Behaviour O) (p : Program) (inDefault : Bool) (state : Place)
    (d : Destination) (before : List Command) (command : Command) (c : Context Place)
    (x : Observed O) (o₂ : O) (c' : Context Place) (x' : Observed O) : Prop where
  /-- The current state is the one in which the course without the command ends. -/
  state?_eq : c'.state? = (d.course p inDefault state before c).context.state?
  /-- A state that is entered on the way is entered all the same. -/
  enters : ∀ place, d.entered? inDefault state = some place →
    x.events ++ (d.exitEvents p inDefault state ++ (before ++ [command]).map .command) ++
      [.entry place] <+: x'.events
  /-- Unless the entry actions panic as well, the course without the command was completed. -/
  completes : ∀ o₃, d.LetsIn β p inDefault state o₂ o₃ →
    c' = { (d.course p inDefault state before c).context with previous? := some state } ∧
      x' = ⟨o₃, x.events ++ (d.exitEvents p inDefault state ++
        (before ++ [command]).map .command ++ d.entryEvents p inDefault state)⟩

/-- The issue of a pop has no part in its passage. -/
theorem Move.passage_withoutIssue (move : Move) (catching : Bool) :
    move.withoutIssue.destination.passage β p catching inDefault state cs c x =
      move.destination.passage β p catching inDefault state cs c x := by
  cases move <;> rfl

/-- No course issues what was left out. -/
theorem Move.ending_course_withoutIssue (move : Move) (i : Issue) :
    (move.withoutIssue.destination.course p inDefault state cs c).ending ≠ .issues i := by
  cases move with
  | stay => exact Ending.noConfusion
  | go target =>
      simp only [withoutIssue, destination, Destination.course]
      split_ifs <;> exact Ending.noConfusion
  | push target pushed => exact Ending.noConfusion
  | pop issue =>
      simp only [withoutIssue, destination, Destination.course]
      cases (stackAfter (p.exitCommands state ++ cs) c.stack).getLast? <;>
        exact Ending.noConfusion

/-- **A passage with a panic** is the course that ends before the action that panicked. -/
theorem Destination.unwound_passage {d : Destination}
    (hout : d.LetsOut β p inDefault state x.owner o₁)
    (hcarry : β.carry state cs o₁ = ⟨before ++ [command], o₂, true⟩) :
    let a := d.passage β p true inDefault state cs c x
    a.result = .error .panic ∧
      Unwound β p inDefault state d before command c x o₂ a.context a.seen := by
  obtain ⟨before', command', hlast, hcommand⟩ := Behaviour.exists_of_carry hcarry
  obtain ⟨rfl, rfl⟩ : before = before' ∧ command = command' := by simpa using hlast
  have hcontext : (d.course p inDefault state (before ++ [command]) c).context =
      { (d.course p inDefault state before c).context with previous? := some state } :=
    d.context_course_concat hcommand
  have hthrough : (true && !true) = false := rfl
  simp only
  cases hentered : d.entered? inDefault state with
  | none =>
      rw [passage_of_not_entered hout hcarry hthrough hentered]
      refine ⟨rfl, ?_, ?_, fun o₃ hin => ?_⟩
      · simp [hcontext]
      · intro place hplace
        rw [hentered] at hplace
        cases hplace
      · obtain rfl : o₃ = o₂ := by simpa [LetsIn, hentered] using hin
        simp [hcontext, entryEvents, hentered]
  | some place =>
      obtain ⟨c₀, -, hcontext₀, -, hpassage⟩ :=
        passage_of_entered (c := c) hout hcarry hthrough hentered
      rw [hpassage]
      refine ⟨rfl, ?_, ?_, fun o₃ hin => ?_⟩
      · refine Eq.trans ?_ (congrArg Context.state? (hcontext.symm.trans hcontext₀)).symm
        simp [Behaviour.enter, Behaviour.block, contextAfter]
      · intro place' hplace
        obtain rfl := Option.some.inj (hentered.symm.trans hplace)
        simp [Behaviour.enter, Behaviour.block, Carried.seen]
      · have hentry : β.carry place (p.entryCommands place) o₂ =
            ⟨p.entryCommands place, o₃, false⟩ := by
          simpa [LetsIn, hentered] using hin
        simp [Behaviour.enter, β.block_eq _ hentry, ← hcontext₀, hcontext, entryEvents, hentered,
          Program.entryEvents]

/-- **A body whose action panics** goes where the body goes that is cut before this action, and
issues nothing. -/
theorem ends_runBody_panic {o : OutputOptions} {t : Transition} {move : Move}
    (hcatch : o.noCatch = false) (hstate : c.state? = some state)
    (hout : move.withoutIssue.destination.LetsOut β p inDefault state x.owner o₁)
    (hcarry : β.carry state cs o₁ = ⟨before ++ [command], o₂, true⟩) :
    ∃ c' x', Ends (runBody p β state (body o inDefault t move cs)) c x (.error .panic) c' x' ∧
      Unwound β p inDefault state move.withoutIssue.destination before command c x o₂ c' x' := by
  obtain ⟨hresult, hunwound⟩ := Destination.unwound_passage (c := c) hout hcarry
  rw [move.passage_withoutIssue] at hresult hunwound
  have hleads : Leads (runBody p β state (body o inDefault t move cs)) c x _ _ _ :=
    leads_runBody hstate move
  rw [hcatch, Bool.not_false, Passage.onward, hresult] at hleads
  exact ⟨_, _, hleads.ends (ends_throw .panic), hunwound⟩

/-! ### The current state in the end -/

/-- A machine with a current state arrives in one. -/
theorem Destination.isSome_state?_arrive (hstate : c.state?.isSome) (d : Destination) :
    (d.arrive β p inDefault state c x).context.state?.isSome := by
  cases d with
  | stay => exact hstate
  | go target =>
      simp only [arrive]
      split_ifs
      · exact hstate
      · exact hstate
  | push target pushed => rfl
  | pop issue =>
      simp only [arrive]
      cases c.stack.getLast? with
      | none => exact hstate
      | some top => rfl

/-- **When panics are caught, there is a current state in the end**, whatever panics. -/
theorem Destination.isSome_state?_passage (hstate : c.state? = some state) (d : Destination) :
    (d.passage β p true inDefault state cs c x).context.state?.isSome := by
  unfold passage Passage.next
  cases hresult : (d.depart β p inDefault state c x).result with
  | error i =>
      simp only
      rw [d.state?_depart, hstate]
      rfl
  | ok _ =>
      simp only [Bool.not_true, Bool.and_false, Bool.false_eq_true, if_false,
        Passage.context_resume]
      exact d.isSome_state?_arrive rfl

end

end Program

end StateMachine
