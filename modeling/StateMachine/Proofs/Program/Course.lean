import StateMachine.Proofs.Program.Dispatch
import StateMachine.Proofs.Program.Passage

/-!
# The Course of a Transition

What the body of a guard does to a machine can be read off the guard: which states are left
and entered and in which order, and what becomes of the current state, the stack and the
rest of the context. `Destination.course` says so, and the body of every guard keeps to it.

## Proof strategy

A body goes the passage of its move, whatever the owner does. Where the owner lets the exit
and entry actions on the way through, the passage is the course for the actions that are
carried out (`Destination.passage_eq`). An owner that never panics carries out all of them.

## Conventions

* `state` is the place that the name `state` stands for, which is the current state.
* The actions of exit, entry and guard may empty the stack; `stackAfter` says what commands
  leave of it.

## Main results

* `Destination.passage_eq`: a passage is the course for the actions carried out.
* `reaches_body`: a body keeps to the course of its move.
* `Move.leaving_eq_nil_iff`: a body leaves no state exactly if its guard is a loopback.
* `Branch.ofGuard_eq_ok`: the move of a body is that of its guard.
* `guard_body_keeps_course`: **the body of every guard** keeps to the course of the guard, in a
  program that stands in what is written of it.
-/

namespace StateMachine

open Program Execution

/-! ### Courses -/

namespace Program

/-- How the body of a guard ends. -/
inductive Ending where
  | done
  /-- The stack was empty. -/
  | refused
  /-- A transition is issued. -/
  | issues (i : Issue)

/-- What the body of a guard does. -/
structure Course where
  events : List Event
  /-- The context in the end, or when a transition is issued. -/
  context : Context Place
  ending : Ending

/-- What is left to run at an ending. -/
def Ending.job {O : Type} (β : Behaviour O) : Ending → Job O Unit
  | .done => pure ()
  | .refused => throw (.fault .emptyStack)
  | .issues i => β.issue i

/-- The course to a destination, for a guard with the given commands that is taken in the
context `c` while `state` is current. In a default state the target may be the current
state; it is then neither left nor entered. -/
def Destination.course (p : Program) (inDefault : Bool) (state : Place) (cs : List Command)
    (c : Context Place) : Destination → Course :=
  let actions := cs.map Event.command
  let previous? := if cs.isEmpty then c.previous? else some state
  fun
  | .stay =>
    { events := actions
      context := { c with state? := some state, previous?, stack := stackAfter cs c.stack }
      ending := .done }
  | .go target =>
    if inDefault && state = target then
      { events := actions
        context := { c with state? := some state, previous?, stack := stackAfter cs c.stack }
        ending := .done }
    else
      { events := p.exitEvents state ++ actions ++ p.entryEvents target
        context := { c with
          state? := some target
          previous?
          stack := stackAfter (p.exitCommands state ++ cs ++ p.entryCommands target) c.stack }
        ending := .done }
  | .push target pushed =>
    { events := actions ++ p.entryEvents pushed
      context := { c with
        state? := some pushed
        previous?
        stack := stackAfter (p.entryCommands pushed)
          (stackAfter cs c.stack ++ [target.getD state]) }
      ending := .done }
  | .pop issue =>
    let stack := stackAfter (p.exitCommands state ++ cs) c.stack
    match stack.getLast? with
    | some top =>
      { events := p.exitEvents state ++ actions
        context := { c with state? := some top, previous?, stack := stack.dropLast }
        ending := issue.elim .done .issues }
    | none =>
      { events := p.exitEvents state ++ actions
        context := { c with state? := some state, previous?, stack := [] }
        ending := .refused }

/-- How a run ends that comes to an ending. What is issued there is left out. -/
def Ending.result : Ending → Except Interrupt Unit
  | .done => .ok ()
  | .refused => .error (.fault .emptyStack)
  | .issues _ => .ok ()

/-! ### From passages to courses -/

namespace Destination

/-- What is seen when the current state is left, if it is. -/
def exitEvents (p : Program) (inDefault : Bool) (state : Place) (d : Destination) : List Event :=
  if d.leaves inDefault state then p.exitEvents state else []

/-- What is seen when a state is entered, if one is. -/
def entryEvents (p : Program) (inDefault : Bool) (state : Place) (d : Destination) : List Event :=
  (d.entered? inDefault state).elim [] p.entryEvents

/-- A course leaves, acts and enters. -/
theorem events_course (p : Program) (inDefault : Bool) (state : Place) (cs : List Command)
    (c : Context Place) (d : Destination) :
    (d.course p inDefault state cs c).events =
      d.exitEvents p inDefault state ++ cs.map .command ++ d.entryEvents p inDefault state := by
  cases d with
  | stay => exact (List.append_nil _).symm
  | go target =>
      by_cases hself : (inDefault && decide (state = target)) = true
      · simp only [course, if_pos hself]
        simp [exitEvents, entryEvents, leaves, entered?, hself]
      · simp only [course, if_neg hself]
        simp [exitEvents, entryEvents, leaves, entered?, hself]
  | push target pushed => rfl
  | pop issue =>
      simp only [course]
      cases (stackAfter (p.exitCommands state ++ cs) c.stack).getLast? with
      | none => exact (List.append_nil _).symm
      | some top => exact (List.append_nil _).symm

end Destination

section

variable {O : Type}

/-- The exit actions on the way are let through, and make `o'` of the owner `o`. -/
def Destination.LetsOut (β : Behaviour O) (p : Program) (inDefault : Bool) (state : Place)
    (d : Destination) (o o' : O) : Prop :=
  if d.leaves inDefault state then
    β.carry state (p.exitCommands state) o = ⟨p.exitCommands state, o', false⟩
  else o' = o

/-- The entry actions on the way are let through, and make `o'` of the owner `o`. -/
def Destination.LetsIn (β : Behaviour O) (p : Program) (inDefault : Bool) (state : Place)
    (d : Destination) (o o' : O) : Prop :=
  match d.entered? inDefault state with
  | some place => β.carry place (p.entryCommands place) o = ⟨p.entryCommands place, o', false⟩
  | none => o' = o

variable {p : Program} {β : Behaviour O} {inDefault : Bool} {state : Place} {c : Context Place}
  {x : Observed O} {cs ks : List Command} {d : Destination} {o₁ o₂ o₃ : O} {panics : Bool}

/-- A quiet owner lets the exit actions through. -/
theorem Behaviour.Quiet.letsOut (h : β.Quiet) (d : Destination) (o : O) :
    ∃ o', d.LetsOut β p inDefault state o o' := by
  unfold Destination.LetsOut
  split_ifs
  · exact h.carry_eq _ o
  · exact ⟨o, rfl⟩

/-- It lets the entry actions through. -/
theorem Behaviour.Quiet.letsIn (h : β.Quiet) (d : Destination) (o : O) :
    ∃ o', d.LetsIn β p inDefault state o o' := by
  unfold Destination.LetsIn
  cases d.entered? inDefault state with
  | some place => exact h.carry_eq _ o
  | none => exact ⟨o, rfl⟩

/-- If there are commands, some are carried out. -/
theorem Behaviour.isEmpty_of_carry {place : Place} {o : O}
    (h : β.carry place cs o = ⟨ks, o₂, panics⟩) : ks.isEmpty = cs.isEmpty := by
  cases cs with
  | nil =>
      obtain rfl : [] = ks := congrArg Carried.commands h
      rfl
  | cons command rest =>
      unfold carry at h
      cases heffect : β.effect place command o with
      | mk owner raises =>
          rw [heffect] at h
          cases raises <;> (obtain rfl := congrArg Carried.commands h; rfl)

/-- What is let through leaves the context that its commands leave. -/
theorem Behaviour.block_eq {place : Place} {o : O} {es : List Event} (e : Event)
    (h : β.carry place cs o = ⟨cs, o₁, false⟩) :
    β.block place e cs c ⟨o, es⟩ =
      ⟨.ok (), contextAfter cs c, ⟨o₁, es ++ e :: cs.map .command⟩⟩ := by
  simp [block, h, Carried.seen, Run.raised]

namespace Destination

/-- The departure, if the exit actions are let through. -/
theorem depart_eq (h : d.LetsOut β p inDefault state x.owner o₁) :
    d.depart β p inDefault state c x =
      ⟨.ok (), if d.leaves inDefault state then contextAfter (p.exitCommands state) c else c,
        ⟨o₁, x.events ++ d.exitEvents p inDefault state⟩⟩ := by
  unfold LetsOut at h
  unfold depart exitEvents
  split_ifs at h ⊢ with hleaves
  · exact β.block_eq _ h
  · rw [h, List.append_nil]

/-- The context when the commands were carried out and the state is set. -/
def acted (p : Program) (inDefault : Bool) (state : Place) (cs : List Command)
    (c : Context Place) (d : Destination) : Context Place :=
  { c with
    state? := some (d.settled state)
    previous? := if cs.isEmpty then c.previous? else some state
    stack := stackAfter cs
      (if d.leaves inDefault state then stackAfter (p.exitCommands state) c.stack else c.stack) }

/-- A passage arrives when the actions are over. A panic that was kept goes on in the end. -/
theorem passage_of_letsOut {catching : Bool} (hout : d.LetsOut β p inDefault state x.owner o₁)
    (hcarry : β.carry state cs o₁ = ⟨ks, o₂, panics⟩)
    (hthrough : (panics && !catching) = false) :
    d.passage β p catching inDefault state cs c x =
      Passage.resume panics
        (d.arrive β p inDefault state (d.acted p inDefault state ks c)
          ⟨o₂, x.events ++ (d.exitEvents p inDefault state ++ ks.map .command)⟩) := by
  unfold passage acted
  rw [depart_eq hout, β.isEmpty_of_carry hcarry]
  simp only [Passage.next, hcarry, hthrough, Bool.false_eq_true, if_false, Carried.seen,
    List.append_assoc]
  cases d.leaves inDefault state <;> rfl

/-- The last thing on a passage is that a state is entered, if one is. -/
theorem passage_of_entered {catching : Bool} {place : Place}
    (hout : d.LetsOut β p inDefault state x.owner o₁)
    (hcarry : β.carry state cs o₁ = ⟨ks, o₂, panics⟩)
    (hthrough : (panics && !catching) = false)
    (hentered : d.entered? inDefault state = some place) :
    ∃ c₀, c₀.state? = some place ∧
      (d.course p inDefault state ks c).context = contextAfter (p.entryCommands place) c₀ ∧
      (d.course p inDefault state ks c).ending = .done ∧
      d.passage β p catching inDefault state cs c x = Passage.resume panics
        (β.enter p place c₀
          ⟨o₂, x.events ++ (d.exitEvents p inDefault state ++ ks.map .command)⟩) := by
  rw [passage_of_letsOut hout hcarry hthrough]
  cases d with
  | stay => cases hentered
  | go target =>
      have hself : ¬(inDefault && decide (state = target)) = true := by
        intro hself
        rw [entered?, if_pos hself] at hentered
        cases hentered
      obtain rfl : target = place := by
        rw [entered?, if_neg hself] at hentered
        exact Option.some.inj hentered
      refine ⟨acted p inDefault state ks c (.go target), rfl, ?_, ?_, ?_⟩
      · simp only [course, if_neg hself]
        simp [acted, contextAfter, settled, leaves, hself, stackAfter_append]
      · simp only [course, if_neg hself]
      · rw [arrive, if_neg hself]
  | push target pushed =>
      obtain rfl : pushed = place := Option.some.inj hentered
      exact ⟨(acted p inDefault state ks c (.push target pushed)).pushState pushed, rfl, rfl, rfl,
        rfl⟩
  | pop issue => cases hentered

/-- Where no state is entered, the course is over when the actions are. -/
theorem passage_of_not_entered {catching : Bool}
    (hout : d.LetsOut β p inDefault state x.owner o₁)
    (hcarry : β.carry state cs o₁ = ⟨ks, o₂, panics⟩)
    (hthrough : (panics && !catching) = false) (hentered : d.entered? inDefault state = none) :
    let course := d.course p inDefault state ks c
    d.passage β p catching inDefault state cs c x =
      Passage.resume panics
        ⟨course.ending.result, course.context,
          ⟨o₂, x.events ++ (d.exitEvents p inDefault state ++ ks.map .command)⟩⟩ := by
  rw [passage_of_letsOut hout hcarry hthrough]
  cases d with
  | stay => rfl
  | go target =>
      have hself : (inDefault && decide (state = target)) = true := by
        by_contra hself
        rw [entered?, if_neg hself] at hentered
        cases hentered
      obtain ⟨rfl, rfl⟩ : inDefault = true ∧ state = target := by simpa using hself
      simp only [course, if_pos hself, arrive]
      simp [acted, leaves, settled, Ending.result]
  | push target pushed => cases hentered
  | pop issue =>
      simp only [course, arrive, acted, leaves, stackAfter_append, if_true]
      cases htop : (stackAfter ks (stackAfter (p.exitCommands state) c.stack)).getLast? with
      | some top => cases issue <;> rfl
      | none =>
          rw [List.getLast?_eq_none_iff.mp htop]
          rfl

/-- **A passage is the course for the actions that are carried out**, if the exit and entry
actions are let through. A panic that was kept goes on in the end. -/
theorem passage_eq {catching : Bool} (hout : d.LetsOut β p inDefault state x.owner o₁)
    (hcarry : β.carry state cs o₁ = ⟨ks, o₂, panics⟩)
    (hthrough : (panics && !catching) = false) (hin : d.LetsIn β p inDefault state o₂ o₃) :
    let course := d.course p inDefault state ks c
    d.passage β p catching inDefault state cs c x =
      Passage.resume panics
        ⟨course.ending.result, course.context, ⟨o₃, x.events ++ course.events⟩⟩ := by
  simp only [events_course]
  cases hentered : d.entered? inDefault state with
  | none =>
      obtain rfl : o₃ = o₂ := by simpa [LetsIn, hentered] using hin
      rw [passage_of_not_entered hout hcarry hthrough hentered]
      simp [entryEvents, hentered]
  | some place =>
      have hentry : β.carry place (p.entryCommands place) o₂ =
          ⟨p.entryCommands place, o₃, false⟩ := by
        simpa [LetsIn, hentered] using hin
      obtain ⟨c₀, -, hcontext, hending, hpassage⟩ :=
        passage_of_entered (c := c) hout hcarry hthrough hentered
      rw [hpassage, Behaviour.enter, β.block_eq _ hentry, ← hcontext, hending]
      simp [entryEvents, hentered, Program.entryEvents, Ending.result]

end Destination

/-- What is left to run behind a course is what its ending says. -/
theorem Passage.onward_course {c' : Context Place} {x' : Observed O} (move : Move) :
    let course := move.destination.course p inDefault state cs c
    Passage.onward β move ⟨course.ending.result, c', x'⟩ = course.ending.job β := by
  cases move with
  | stay => rfl
  | go target =>
      simp only [Move.destination, Destination.course]
      split_ifs <;> rfl
  | push target pushed => rfl
  | pop issue =>
      simp only [Move.destination, Destination.course]
      cases (stackAfter (p.exitCommands state ++ cs) c.stack).getLast? with
      | none => rfl
      | some top => cases issue <;> rfl

/-- **A body keeps to the course of its move.** -/
theorem reaches_body {o : OutputOptions} {inDefault : Bool} {t : Transition} {l : Locals}
    (h : β.Quiet) (hl : l = {}) (hstate : c.state? = some state) (move : Move) :
    ∃ l', Reaches (Statement.execAll p β state l (body o inDefault t move cs)) c
      (move.destination.course p inDefault state cs c).events
      (move.destination.course p inDefault state cs c).context
      ((move.destination.course p inDefault state cs c).ending.job β >>= fun _ => pure l') := by
  obtain rfl := hl
  refine ⟨{}, .of_leads fun x => ?_⟩
  obtain ⟨o₁, hout⟩ : ∃ o₁, move.destination.LetsOut β p inDefault state x.owner o₁ :=
    h.letsOut _ _
  obtain ⟨o₂, hcarry⟩ := h.carry_eq cs o₁
  obtain ⟨o₃, hin⟩ : ∃ o₃, move.destination.LetsIn β p inDefault state o₂ o₃ := h.letsIn _ _
  have hleads : Run.Leads (Statement.execAll p β state {} (body o inDefault t move cs)) c x _ _ _ :=
    leads_body hstate move
  rw [Destination.passage_eq hout hcarry rfl hin] at hleads
  rw [← Passage.onward_course move]
  exact ⟨_, rfl, hleads⟩

end

end Program

/-! ### The guard of a body -/

/-- The place that a reference in the map `map` means. -/
def Machine.placeOf? (m : Machine) (map : Map) (target : Reference) : Option Place :=
  (m.resolve? target map.name).map fun (map, s) => .ofState map s

/-- Where a guard of the map `map` takes the machine. -/
def Guard.destination? (m : Machine) (map : Map) (g : Guard) : Option Destination :=
  match g.transfer with
  | .set .nil => some .stay
  | .set (.named target) => (m.placeOf? map target).map .go
  | .push .nil pushed => (m.placeOf? map pushed).map (.push none)
  | .push (.named target) pushed => do
    return .push (some (← m.placeOf? map target)) (← m.placeOf? map pushed)
  | .pop none _ => some (.pop none)
  | .pop (some transition) _ => (Issue.ofGuard g transition).toOption.map fun i => .pop (some i)

namespace Program

variable {m : Machine} {map : Map} {g : Guard}

/-- The variant of a reference stands for the place that the reference means. -/
theorem Variant.placeOf?_of_ofReference {line : Nat} {target : Reference} {v : Variant}
    (h : Variant.ofReference m map line target = .ok v) :
    m.placeOf? map target = some v.place := by
  unfold Variant.ofReference at h
  unfold Machine.placeOf?
  cases hresolve : m.resolve? target map.name with
  | none => simp [hresolve] at h
  | some found =>
      rw [hresolve] at h
      rw [Option.map_some, Variant.place_of_ofState h]

/-- What an end state is read as: the place of its variant, if it is named. -/
theorem placeOf?_of_mapM {e : EndState} {line : Nat} {target : Option Variant}
    (h : e.reference?.mapM (Variant.ofReference m map line) = .ok target) :
    (e = .nil ∧ target = none) ∨
      ∃ r v, e = .named r ∧ target = some v ∧ m.placeOf? map r = some v.place := by
  rcases optionMapM_eq_ok_iff.mp h with ⟨hend, htarget⟩ | ⟨r, v, hend, htarget, hv⟩
  · cases e with
    | nil => exact .inl ⟨rfl, htarget⟩
    | named r => cases hend
  · cases e with
    | nil => cases hend
    | named r' =>
        obtain rfl := Option.some.inj hend
        exact .inr ⟨r', v, rfl, htarget, Variant.placeOf?_of_ofReference hv⟩

/-- **The move of a guard goes where the guard says.** -/
theorem Move.destination?_of_ofGuard {target : Option Variant} {move : Move}
    (htarget : g.endReference?.mapM (Variant.ofReference m map g.line) = .ok target)
    (hmove : Move.ofGuard m map g target = .ok move) :
    g.destination? m map = some move.destination := by
  unfold Guard.destination?
  unfold Move.ofGuard at hmove
  unfold Guard.endReference? Guard.endState? at htarget
  cases htransfer : g.transfer with
  | set e =>
      rw [htransfer] at htarget hmove
      obtain rfl := Except.ok.inj hmove
      rcases placeOf?_of_mapM htarget with ⟨rfl, rfl⟩ | ⟨r, v, rfl, rfl, hplace⟩
      · rfl
      · simp only [hplace]
        rfl
  | push e pushed =>
      rw [htransfer] at htarget hmove
      obtain ⟨w, hw, hmove⟩ := bind_eq_ok_iff.mp hmove
      obtain rfl := Except.ok.inj hmove
      have hpushed := Variant.placeOf?_of_ofReference hw
      rcases placeOf?_of_mapM htarget with ⟨rfl, rfl⟩ | ⟨r, v, rfl, rfl, hplace⟩
      · simp only [hpushed]
        rfl
      · simp only [hplace, hpushed]
        rfl
  | pop transition arguments =>
      rw [htransfer] at hmove
      obtain ⟨issue, hissue, hmove⟩ := bind_eq_ok_iff.mp hmove
      obtain rfl := Except.ok.inj hmove
      rcases optionMapM_eq_ok_iff.mp hissue with ⟨rfl, rfl⟩ | ⟨name, i, rfl, rfl, hi⟩
      · rfl
      · simp only [toOption_eq_some_iff.mpr hi]
        rfl

/-- **The body of a guard leaves no state exactly if the guard is a loopback.** -/
theorem Move.leaving_eq_nil_iff {target : Option Variant} {move : Move}
    (htarget : g.endReference?.mapM (Variant.ofReference m map g.line) = .ok target)
    (hmove : Move.ofGuard m map g target = .ok move) (inDefault : Bool) :
    leaving inDefault move = [] ↔ g.isLoopback = true := by
  unfold Move.ofGuard at hmove
  unfold Guard.endReference? Guard.endState? at htarget
  unfold Guard.isLoopback Guard.endState?
  cases htransfer : g.transfer with
  | set e =>
      rw [htransfer] at htarget hmove
      obtain rfl := Except.ok.inj hmove
      rcases placeOf?_of_mapM htarget with ⟨rfl, rfl⟩ | ⟨r, v, rfl, rfl, -⟩
      · exact iff_of_true rfl rfl
      · exact iff_of_false (by cases inDefault <;> simp [leaving]) Bool.false_ne_true
  | push e pushed =>
      rw [htransfer] at hmove
      obtain ⟨w, -, hmove⟩ := bind_eq_ok_iff.mp hmove
      obtain rfl := Except.ok.inj hmove
      exact iff_of_true rfl rfl
  | pop transition arguments =>
      rw [htransfer] at hmove
      obtain ⟨issue, -, hmove⟩ := bind_eq_ok_iff.mp hmove
      obtain rfl := Except.ok.inj hmove
      exact iff_of_false (List.cons_ne_nil _ _) Bool.false_ne_true

/-- What the branch of a guard is made of. -/
theorem Branch.ofGuard_eq_ok {o : OutputOptions} {s : State} {t : Transition} {b : Branch}
    (h : Branch.ofGuard m o map s t g = .ok b) :
    ∃ cs move, Command.ofActions g.actions = .ok cs ∧
      g.destination? m map = some move.destination ∧
      b.statements = body o s.isDefault t move cs := by
  simp only [Branch.ofGuard, bind_eq_ok_iff, pure, Except.pure, Except.ok.injEq] at h
  obtain ⟨target, htarget, cs, hcs, move, hmove, condition, -, rfl⟩ := h
  exact ⟨cs, move, hcs, Move.destination?_of_ofGuard htarget hmove, rfl⟩

/-- The run of a body ends as its statements do. -/
theorem Reaches.runBody {O : Type} {p : Program} {β : Behaviour O} {state : Place}
    {c c' : Context Place} {es : List Event} {l : Locals} {statements : List Statement}
    {job : Job O Unit}
    (h : Reaches (Statement.execAll p β state {} statements) c es c' (job >>= fun _ => pure l)) :
    Reaches (runBody p β state statements) c es c' job := by
  have hjob : ((job >>= fun _ => pure l) >>= fun _ => pure ()) = job := by
    rw [bind_assoc]
    simp
  have hbind : Reaches (Program.runBody p β state statements) c es c'
      ((job >>= fun _ => pure l) >>= fun _ => pure ()) := h.bind_rest
  rwa [hjob] at hbind

end Program

/-! ### Dispatched commands -/

namespace Validated.Makes

variable {v : Validated} {o : OutputOptions} {p : Program}

/-- The dispatch at the place of a state is that of the state. -/
theorem dispatch?_ofState (h : v.Makes o p) (hwf : v.machine.WellFormed) {map : Map} {s : State}
    (hs : (map, s) ∈ v.machine.states) :
    ∃ d, p.dispatch? (.ofState map s) = some d ∧ Dispatch.ofState map s = .ok d := by
  obtain ⟨d, hd, hok⟩ := exists_of_mapM_eq_ok h.dispatch hs
  have hplaces : (p.dispatch.map (·.variant.place)).Nodup := by
    rw [h.map_place_dispatch]
    exact hwf.nodup_places
  have hplace := (Dispatch.ofState_eq_ok hok).1
  have hsome : (p.dispatch? (.ofState map s)).isSome := by
    unfold Program.dispatch?
    exact List.find?_isSome.mpr ⟨d, hd, by simpa using hplace⟩
  obtain ⟨d', hd'⟩ := Option.isSome_iff_exists.mp hsome
  have hmem := List.mem_of_find?_eq_some hd'
  have hplace' : d'.variant.place = .ofState map s := by simpa using List.find?_some hd'
  obtain rfl : d' = d := List.inj_on_of_nodup_map hplaces hmem hd (hplace'.trans hplace.symm)
  exact ⟨d', hd', hok⟩

/-- **The entry and exit actions that run are those of the state.** -/
theorem commands_ofState (h : v.Makes o p) (hwf : v.machine.WellFormed) {map : Map} {s : State}
    (hs : (map, s) ∈ v.machine.states) :
    Command.ofActions s.entryActions = .ok (p.entryCommands (.ofState map s)) ∧
      Command.ofActions s.exitActions = .ok (p.exitCommands (.ofState map s)) := by
  obtain ⟨d, hd, hok⟩ := h.dispatch?_ofState hwf hs
  unfold entryCommands exitCommands
  rw [hd]
  exact Dispatch.commands_of_ofState hok

end Validated.Makes

/-! ### Guards keep their course -/

/-- **The body of every guard keeps to the course of the guard.** The program of a machine
stands in what is written of it, and it has, for each guard of each transition of each state, a
branch at the place of the guard. Whatever the options, the owner and the context are, if the
owner is quiet and `state` is current, the branch leaves and enters states, acts and changes
the context as the destination of the guard says, and issues its transition at most once, in
the end. The entry and exit actions are those of the states. -/
theorem guard_body_keeps_course {m : Machine} {v : Validated} {o : OutputOptions} {p : Program}
    (hbuilt : m.Built) (hvalid : m.validate = .ok v) (hprogram : v.program o = .ok p)
    {map : Map} (hmap : map ∈ m.maps) {s : State} (hs : s ∈ map.allStates) {t : Transition}
    (ht : t ∈ s.transitions) {g : Guard} {i : Nat} (hg : t.guards[i]? = some g) :
    p.StandsIn p.pieces ∧
      (∀ map' s', (map', s') ∈ m.states →
        Command.ofActions s'.entryActions = .ok (p.entryCommands (.ofState map' s')) ∧
          Command.ofActions s'.exitActions = .ok (p.exitCommands (.ofState map' s'))) ∧
      ∃ h ∈ p.handlers, h.name.key = map.handlerKey s t ∧
        ∃ bs otherwise b, h.body = .branches bs otherwise ∧ bs[i]? = some b ∧
          ∃ destination cs, g.destination? m map = some destination ∧
            Command.ofActions g.actions = .ok cs ∧
            ∀ (O : Type) (β : Behaviour O), β.Quiet → ∀ (state : Place) (c : Context Place),
              c.state? = some state →
              Reaches (runBody p β state b.statements) c
                (destination.course p s.isDefault state cs c).events
                (destination.course p s.isDefault state cs c).context
                ((destination.course p s.isDefault state cs c).ending.job β) := by
  obtain rfl := Machine.machine_of_validate hvalid
  have hmakes := Validated.makes_of_program hprogram
  refine ⟨hmakes.standsIn hbuilt.wellFormed,
    fun map' s' hs' => hmakes.commands_ofState hbuilt.wellFormed hs', ?_⟩
  obtain ⟨h, hmem, hok⟩ := hmakes.exists_handler hmap hs ht
  obtain ⟨hname, -, bs, otherwise, hbody, hbs, -⟩ := Handler.ofTransition_eq_ok_iff.mp hok
  obtain ⟨b, hb, hbranch⟩ := getElem?_of_mapM_eq_ok hbs hg
  obtain ⟨cs, move, hcs, hdestination, hstatements⟩ := Branch.ofGuard_eq_ok hbranch
  refine ⟨h, hmem, (HandlerName.make_eq_ok_iff.mp hname).1, bs, otherwise, b, hbody, hb,
    move.destination, cs, hdestination, hcs, fun O β hquiet state c hstate => ?_⟩
  obtain ⟨l, hreaches⟩ := reaches_body (l := {}) hquiet rfl hstate move
  rw [hstatements]
  exact hreaches.runBody

/-- An owner that does nothing. -/
def idle : Behaviour Unit where
  roster := { name := Place.text, id := fun _ => 0, ofId? := fun _ => none }
  perform _ _ o := (o, false)
  issue _ := pure ()

/-- The guard that opens the gate leaves the one state and enters the other. -/
theorem gate_unlock_course :
    ∃ v p, gate.Built ∧ gate.validate = .ok v ∧ v.program {} = .ok p ∧ idle.Quiet ∧
      p.StandsIn p.pieces ∧
        ∃ h ∈ p.handlers, ∃ bs otherwise b, h.body = .branches bs otherwise ∧ bs[0]? = some b ∧
          Reaches (runBody p idle (.ofState gateMap gateClosed) b.statements)
            (.start (.ofState gateMap gateClosed))
            [.exit (.ofState gateMap gateClosed), .entry (.ofState gateMap gateOpen)]
            (.start (.ofState gateMap gateOpen)) (pure ()) := by
  obtain ⟨v, p, hv, hp⟩ := gate_program
  have hmap : gateMap ∈ gate.maps := List.mem_singleton_self _
  have hordinary : gateClosed ∈ gateMap.states := List.mem_cons_self
  have hclosed : gateClosed ∈ gateMap.allStates := List.mem_append_right _ hordinary
  have ht : gateUnlock ∈ gateClosed.transitions := List.mem_singleton_self _
  have hg : gateUnlock.guards[0]? =
      some (.make "key == 7" (.set (.named (.unqualified "Open"))) 1 []) := rfl
  obtain ⟨hstands, hcommands, h, hmem, -, bs, otherwise, b, hbody, hb, destination, cs,
    hdestination, hcs, hreaches⟩ := guard_body_keeps_course gate_built hv hp hmap hclosed ht hg
  have hquiet : idle.Quiet := fun _ _ _ => rfl
  refine ⟨v, p, gate_built, hv, hp, hquiet, hstands, h, hmem, bs, otherwise, b, hbody, hb, ?_⟩
  have hgo : Guard.destination? gate gateMap
      (.make "key == 7" (.set (.named (.unqualified "Open"))) 1 []) =
        some (.go (.ofState gateMap gateOpen)) := by
    have hplace : gate.placeOf? gateMap (.unqualified "Open") =
        some (.ofState gateMap gateOpen) := by
      decide +kernel
    simp only [Guard.destination?, Guard.make, hplace]
    rfl
  obtain rfl := Option.some.inj (hdestination.symm.trans hgo)
  obtain rfl : [] = cs := Except.ok.inj hcs
  have hexit : [] = p.exitCommands (.ofState gateMap gateClosed) :=
    Except.ok.inj (hcommands gateMap gateClosed (Machine.mem_states_iff.mpr ⟨hmap, hordinary⟩)).2
  have hentry : [] = p.entryCommands (.ofState gateMap gateOpen) :=
    Except.ok.inj (hcommands gateMap gateOpen (Machine.mem_states_iff.mpr
      ⟨hmap, List.mem_cons_of_mem _ List.mem_cons_self⟩)).1
  have hrun := hreaches Unit idle hquiet (.ofState gateMap gateClosed)
    (.start (.ofState gateMap gateClosed)) rfl
  have hcourse : (Destination.go (.ofState gateMap gateOpen)).course p gateClosed.isDefault
      (.ofState gateMap gateClosed) [] (.start (.ofState gateMap gateClosed)) =
      ⟨[.exit (.ofState gateMap gateClosed), .entry (.ofState gateMap gateOpen)],
        .start (.ofState gateMap gateOpen), .done⟩ := by
    have hisDefault : gateClosed.isDefault = false := by decide
    simp [Destination.course, exitEvents, entryEvents, ← hexit, ← hentry, hisDefault,
      Context.start]
  rw [hcourse] at hrun
  exact hrun

end StateMachine
