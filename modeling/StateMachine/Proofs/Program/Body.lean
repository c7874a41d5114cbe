import StateMachine.Proofs.Execution.Run
import StateMachine.Proofs.Program.Parts

/-!
# Running the Body of a Guard

The statements of a body are carried out on a session and on an owner whose actions are
watched: what is left, entered and done is recorded as a list of events. A body has two
local names, one for a panic that was caught and one for the result of a pop.

What the owner does, and what issuing a further transition means, is up to a `Behaviour`.
An action of the owner does not touch the machine, but it may panic; a behaviour is quiet if
none does.

## Conventions

* What is carried out are the statements in the tables of a program. That they are the ones
  that are written is said by `Validated.Makes.standsIn`.
* `Reaches r c es c' rest` reads: a run of `r` that begins in the context `c` goes through
  the events `es` to the context `c'` and goes on as `rest` does. With `rest` a `pure` this
  says how `r` ends; with `rest` a `throw`, how it is interrupted.
* `Reaches` does not follow the owner. Where it matters what the owner does, `Run.Ends` says
  how a run ends, with the owner in the end.

## Main results

* `Behaviour.ends_commands`: how far commands are carried out, and what they do.
* `Statement.execAll_append`, `ends_append`: a body is carried out piece by piece.
-/

namespace StateMachine.Program

open Execution Run

/-! ### Observing a run -/

/-- What is seen of a body while it runs. -/
inductive Event where
  /-- The exit actions of a state begin. -/
  | exit (state : Place)
  | command (c : Command)
  /-- The entry actions of a state begin. -/
  | entry (state : Place)

/-- An owner and what was seen so far, the latest event last. -/
structure Observed (O : Type) where
  owner : O
  events : List Event := []

/-- A run of a machine with an owner that is watched. -/
abbrev Job (O α : Type) := Run Place (Observed O) α

/-- What stands outside a body. -/
structure Behaviour (O : Type) where
  /-- The names of the states, for tracing. -/
  roster : Roster Place
  /-- What a command does to the owner while the name `state` stands for a place, and whether
  it panics then. -/
  perform : Place → Command → O → O × Bool
  /-- What happens when a transition is issued. -/
  issue : Issue → Job O Unit

/-- No command panics. -/
def Behaviour.Quiet {O : Type} (β : Behaviour O) : Prop :=
  ∀ state c o, (β.perform state c o).2 = false

section

variable {O : Type}

/-- Notes an event. -/
def record (e : Event) : Job O Unit :=
  Run.onOwner fun x => { x with events := x.events ++ [e] }

/-- The owner carries out a command, and may panic. -/
def Behaviour.act (β : Behaviour O) (state : Place) (c : Command) : Job O Unit := do
  let (owner, panics) := β.perform state c (← get).owner.owner
  Run.onOwner fun x => { x with owner }
  if panics then throw .panic

/-- Carries out a command. Emptying the stack is up to the machine, all else to the owner. -/
def Behaviour.command (β : Behaviour O) (state : Place) (c : Command) : Job O Unit := do
  record (.command c)
  match c with
  | .emptyStack => Run.emptyStack
  | _ => β.act state c

/-- Whether the command empties the stack of the machine. -/
def Command.emptiesStack : Command → Bool
  | .emptyStack => true
  | .call _ _ => false
  | .assign _ _ => false

/-- What commands leave of a stack. -/
def stackAfter (cs : List Command) (stack : List Place) : List Place :=
  if cs.any Command.emptiesStack then [] else stack

/-- Carries out commands in order. -/
def Behaviour.commands (β : Behaviour O) (state : Place) : List Command → Job O Unit
  | [] => pure ()
  | c :: rest => do
    β.command state c
    β.commands state rest

end

/-! ### Statements -/

/-- The dispatch of the state at a place. -/
def dispatch? (p : Program) (place : Place) : Option Dispatch :=
  p.dispatch.find? fun d => d.variant.place = place

/-- The entry actions of the state at a place. -/
def entryCommands (p : Program) (place : Place) : List Command :=
  (p.dispatch? place).elim [] Dispatch.entry

/-- The exit actions of the state at a place. -/
def exitCommands (p : Program) (place : Place) : List Command :=
  (p.dispatch? place).elim [] Dispatch.exit

/-- What is seen when the state at a place is left. -/
def exitEvents (p : Program) (place : Place) : List Event :=
  .exit place :: (p.exitCommands place).map .command

/-- What is seen when the state at a place is entered. -/
def entryEvents (p : Program) (place : Place) : List Event :=
  .entry place :: (p.entryCommands place).map .command

/-- The local names of a body. -/
structure Locals where
  /-- The panic that was caught, if there was one. -/
  outcome : Option Interrupt := none
  /-- The result of a pop. -/
  popped : Except Fault Unit := .ok ()

/-- The place that a target means. -/
def Target.place (state : Place) : Target → Place
  | .current => state
  | .variant v => v.place

section

variable {O : Type} (p : Program) (β : Behaviour O) (state : Place)

/-- Leaves the state at a place. -/
def leaveState (place : Place) : Job O Unit := do
  record (.exit place)
  β.commands place (p.exitCommands place)

/-- Enters the state at a place. -/
def enterState (place : Place) : Job O Unit := do
  record (.entry place)
  β.commands place (p.entryCommands place)

/-- Traces a message about the state. -/
def traced (title text : String) : Job O Unit :=
  Run.onSession (·.trace (title ++ β.roster.name state ++ "." ++ text))

/-- Carries out a statement, while the name `state` stands for the place `state`. -/
def Statement.exec (l : Locals) : Statement → Job O Locals
  | .traceEnter signature => do
    traced β state "ENTER TRANSITION: " signature
    return l
  | .traceExit transition => do
    traced β state "EXIT TRANSITION : " transition
    return l
  | .leave => do
    leaveState p β state
    return l
  | .leaveUnless v => do
    if state ≠ v.place then leaveState p β state
    return l
  | .clear => do
    Run.clearState
    return l
  | .command c => do
    β.command state c
    return l
  | .catching cs => do
    let outcome ← Run.attempt (β.commands state cs)
    return { l with outcome }
  | .setState target => do
    Run.setState β.roster (target.place state)
    return l
  | .enter v => do
    enterState p β v.place
    return l
  | .enterUnless v => do
    if state ≠ v.place then enterState p β v.place
    return l
  | .push v => do
    Run.pushState β.roster v.place
    return l
  | .pop => do
    Run.popState β.roster
    return l
  | .popLater => do
    let popped ← Run.observe (Run.popState β.roster)
    return { l with popped }
  | .resume => do
    Run.resume l.outcome
    return l
  | .checkPop => do
    Run.accept l.popped
    return l
  | .issue i => do
    β.issue i
    return l

/-- Carries out statements in order. -/
def Statement.execAll (l : Locals) : List Statement → Job O Locals
  | [] => pure l
  | s :: rest => do
    let l ← s.exec p β state l
    Statement.execAll l rest

/-- Carries out a body. -/
def runBody (statements : List Statement) : Job O Unit := do
  let _ ← Statement.execAll p β state {} statements

end

/-! ### Following a run -/

section

variable {O α γ : Type} {c c₁ c' : Context Place} {es es' : List Event}

/-- A run of `r` that begins in the context `c` goes through the events `es` to the context
`c'` and goes on as `rest` does. -/
def Reaches (r : Job O α) (c : Context Place) (es : List Event) (c' : Context Place)
    (rest : Job O α) : Prop :=
  ∀ w, w.session.context = c → ∃ w', w'.session.context = c' ∧
    w'.owner.events = w.owner.events ++ es ∧ r.run.run w = rest.run.run w'

/-- Whatever a run goes on as, what comes after it comes after that. -/
theorem Reaches.bind_rest {r rest : Job O α} {k : α → Job O γ} (h : Reaches r c es c' rest) :
    Reaches (r >>= k) c es c' (rest >>= k) := by
  intro w hw
  obtain ⟨w', hc', hes, hr⟩ := h w hw
  exact ⟨w', hc', hes, by rw [run_bind, hr, run_bind]⟩

/-- A run reaches where it leads, if this does not depend on the owner. -/
theorem Reaches.of_leads {r rest : Job O α}
    (h : ∀ x, ∃ x', x'.events = x.events ++ es ∧ Leads r c x c' x' rest) :
    Reaches r c es c' rest := by
  intro w hw
  obtain ⟨x', hes, hleads⟩ := h w.owner
  obtain ⟨w', hc', rfl, hr⟩ := hleads w hw rfl
  exact ⟨w', hc', hes, hr⟩

end

/-! ### Commands -/

/-- What commands leave of a context. -/
def contextAfter (cs : List Command) (c : Context Place) : Context Place :=
  { c with stack := stackAfter cs c.stack }

/-- No commands leave a stack alone. -/
@[simp] theorem stackAfter_nil (stack : List Place) : stackAfter [] stack = stack :=
  rfl

/-- Commands leave what the later ones leave of what the earlier ones left. -/
theorem stackAfter_append (cs ds : List Command) (stack : List Place) :
    stackAfter (cs ++ ds) stack = stackAfter ds (stackAfter cs stack) := by
  unfold stackAfter
  rw [List.any_append]
  cases cs.any Command.emptiesStack <;> cases ds.any Command.emptiesStack <;> rfl

/-- One command leaves what the others are left with. -/
theorem contextAfter_cons (command : Command) (cs : List Command) (c : Context Place) :
    contextAfter (command :: cs) c = contextAfter cs (contextAfter [command] c) := by
  have hstack := stackAfter_append [command] cs c.stack
  unfold contextAfter
  rw [← List.singleton_append, hstack]

section

variable {O : Type} {β : Behaviour O} {state : Place} {c : Context Place} {x : Observed O}

/-- What a command makes of the owner, and whether it panics. Emptying the stack is up to the
machine. -/
def Behaviour.effect (β : Behaviour O) (state : Place) (command : Command) (o : O) : O × Bool :=
  match command with
  | .emptyStack => (o, false)
  | .call method arguments => β.perform state (.call method arguments) o
  | .assign property value => β.perform state (.assign property value) o

/-- How far commands are carried out. -/
structure Carried (O : Type) where
  /-- The commands carried out. If one of them panicked, it is the last. -/
  commands : List Command
  owner : O
  panics : Bool

/-- Commands are carried out until one panics. -/
def Behaviour.carry (β : Behaviour O) (state : Place) : List Command → O → Carried O
  | [], o => ⟨[], o, false⟩
  | c :: rest, o =>
    match β.effect state c o with
    | (owner, true) => ⟨[c], owner, true⟩
    | (owner, false) =>
      let carried := β.carry state rest owner
      { carried with commands := c :: carried.commands }

/-- What is seen when commands were carried out. -/
def Carried.seen (k : Carried O) (x : Observed O) : Observed O :=
  { owner := k.owner, events := x.events ++ k.commands.map .command }

/-- The owner acts. -/
theorem Behaviour.ends_act (β : Behaviour O) (state : Place) (command : Command) :
    Ends (β.act state command) c x (raised (β.perform state command x.owner).2) c
      { x with owner := (β.perform state command x.owner).1 } := by
  refine ends_get_bind fun w _ hx => ?_
  rw [hx]
  refine (ends_onOwner _).bind ?_
  cases (β.perform state command x.owner).2 with
  | false => exact ends_pure ()
  | true => exact ends_throw .panic

/-- What a command does. -/
theorem Behaviour.ends_command (β : Behaviour O) (state : Place) (command : Command) :
    Ends (β.command state command) c x (raised (β.effect state command x.owner).2)
      (contextAfter [command] c)
      ⟨(β.effect state command x.owner).1, x.events ++ [.command command]⟩ := by
  cases command with
  | emptyStack => exact (ends_onOwner _).bind ends_emptyStack
  | call method arguments => exact (ends_onOwner _).bind (β.ends_act state _)
  | assign property value => exact (ends_onOwner _).bind (β.ends_act state _)

/-- **What commands do**: they are carried out as far as the owner lets them, and the machine
is left alone but for its stack. -/
theorem Behaviour.ends_commands (β : Behaviour O) (state : Place) (cs : List Command) :
    Ends (β.commands state cs) c x (raised (β.carry state cs x.owner).panics)
      (contextAfter (β.carry state cs x.owner).commands c)
      ((β.carry state cs x.owner).seen x) := by
  induction cs generalizing c x with
  | nil =>
      have hnothing : (β.carry state [] x.owner).seen x = x := by
        simp [carry, Carried.seen]
      rw [hnothing]
      exact ends_pure ()
  | cons command rest ih =>
      have hcommand := β.ends_command (c := c) (x := x) state command
      unfold carry
      cases heffect : β.effect state command x.owner with
      | mk owner panics =>
          rw [heffect] at hcommand
          cases panics with
          | true => exact hcommand.bind_error
          | false =>
              unfold Carried.seen
              simp only
              rw [contextAfter_cons, List.map_cons, List.append_cons]
              exact hcommand.bind ih

/-- A quiet owner lets every command through. -/
theorem Behaviour.Quiet.carry_eq (h : β.Quiet) (cs : List Command) (o : O) :
    ∃ owner, β.carry state cs o = ⟨cs, owner, false⟩ := by
  induction cs generalizing o with
  | nil => exact ⟨o, rfl⟩
  | cons command rest ih =>
      have hquiet : (β.effect state command o).2 = false := by
        cases command with
        | emptyStack => rfl
        | call method arguments => exact h state _ o
        | assign property value => exact h state _ o
      obtain ⟨owner, hrest⟩ := ih (β.effect state command o).1
      refine ⟨owner, ?_⟩
      unfold carry
      rw [show β.effect state command o = ((β.effect state command o).1, false) from
        Prod.ext rfl hquiet]
      simp only [hrest]

end

/-! ### Statements one after the other -/

section

variable {O : Type} {p : Program} {β : Behaviour O} {state : Place}
  {c c₁ c' : Context Place} {x x₁ x' : Observed O} {l l₁ : Locals}

/-- **A body is carried out piece by piece.** -/
theorem Statement.execAll_append (l : Locals) (xs ys : List Statement) :
    Statement.execAll p β state l (xs ++ ys) =
      Statement.execAll p β state l xs >>= fun l => Statement.execAll p β state l ys := by
  induction xs generalizing l with
  | nil => rfl
  | cons s rest ih =>
      simp only [List.cons_append, Statement.execAll, ih, bind_assoc]

/-- One piece after the other. -/
theorem ends_append {xs ys : List Statement} {result : Except Interrupt Locals}
    (h : Ends (Statement.execAll p β state l xs) c x (.ok l₁) c₁ x₁)
    (hrest : Ends (Statement.execAll p β state l₁ ys) c₁ x₁ result c' x') :
    Ends (Statement.execAll p β state l (xs ++ ys)) c x result c' x' := by
  rw [Statement.execAll_append]
  exact h.bind hrest

/-- An interrupt in one piece ends the body. -/
theorem ends_append_error {xs ys : List Statement} {i : Interrupt}
    (h : Ends (Statement.execAll p β state l xs) c x (.error i) c' x') :
    Ends (Statement.execAll p β state l (xs ++ ys)) c x (.error i) c' x' := by
  rw [Statement.execAll_append]
  exact h.bind_error

/-- A single statement. -/
theorem ends_singleton {s : Statement} {result : Except Interrupt Locals}
    (h : Ends (s.exec p β state l) c x result c' x') :
    Ends (Statement.execAll p β state l [s]) c x result c' x' := by
  have hone : Statement.execAll p β state l [s] = s.exec p β state l := by
    simp [Statement.execAll]
  rwa [hone]

/-- A statement that runs `r` and leaves the local names alone. -/
theorem ends_statement {s : Statement} {r : Job O Unit} {result : Except Interrupt Unit}
    (hexec : s.exec p β state l = r >>= fun _ => pure l) (h : Ends r c x result c' x') :
    Ends (Statement.execAll p β state l [s]) c x (result.map fun _ => l) c' x' := by
  refine ends_singleton ?_
  rw [hexec]
  cases result with
  | ok _ => exact h.map fun _ => l
  | error i => exact h.bind_error

/-- No statements do nothing. -/
theorem ends_nil : Ends (Statement.execAll p β state l []) c x (.ok l) c x :=
  ends_pure l

end

end StateMachine.Program
