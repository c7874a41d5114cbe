import StateMachine.Proofs.Execution.Snapshot
import StateMachine.Proofs.Player.Balance

/-!
# A Resumed Player Goes on Like the Original

A snapshot of the controller holds its mode and its stack. It does not hold the mode before, the
transition in flight, whether the controller traces, or what was traced. All of these survive a
call: after a panic the transition that was in flight still has its name in the context. A
controller that was restored from a snapshot has none of that, and yet no request tells it from
the one that the snapshot was taken of.

## Proof strategy

Two machines are alike if they are in one position, in the sense of the table of positions. A
request is answered from the position alone, and leaves alike machines alike
(`Alike.perform`), so a script makes no difference between them (`Alike.observations`). Restoring
a snapshot makes a machine that is alike.

## Conventions

* A request comes with whether the menu is jammed then, as the events of a `Script` do.
* An owner is not part of a controller. Each call may come from another one.

## Main results

* `Mode.roster_faithful`: the modes and their numbers belong together.
* `Alike.perform`: one request does the same to machines that are alike.
* `resumed_indistinguishable`: for **every script of requests**, a controller restored from a
  snapshot is seen as the original is.
-/

namespace StateMachine.Player

open Execution

/-- The modes are numbered in order, so they and their numbers belong together. -/
theorem Mode.roster_faithful : Mode.roster.Faithful :=
  Roster.faithful_of_positions Mode.all (by decide) (fun s => by cases s <;> rfl)
    fun _ => rfl

namespace Controller

/-! ### Controllers that calls lead to -/

/-- The controllers that calls lead to, whatever owners the calls come from and however they
end. -/
inductive Reached : Controller → Prop
  | start : Reached .start
  | entered {a : Controller} (o : Owner) (ha : Reached a) :
      Reached (enterStartState.run.run ⟨a, o⟩).2.session
  | issued {a : Controller} (o : Owner) (e : Event) (ha : Reached a) :
      Reached (e.run.run.run ⟨a, o⟩).2.session

/-- Entering a mode is up to the owner. -/
theorem exists_ends_onEntry (mode : Mode) (c : Context Mode) (o : Owner) :
    ∃ o', Run.Ends (onEntry mode) c o (.ok ()) c o' := by
  cases mode with
  | stopped => exact ⟨_, ends_call .stopped⟩
  | playing => exact ⟨_, ends_silent⟩
  | browsing => exact ⟨_, ends_call .showMenu⟩

/-- Between two calls there is a current mode, also after a panic. -/
theorem Reached.exists_mode {a : Controller} (ha : Reached a) :
    ∃ mode, a.context.state? = some mode := by
  induction ha with
  | start => exact ⟨.stopped, rfl⟩
  | @entered a o _ ih =>
      obtain ⟨mode, hmode⟩ := ih
      obtain ⟨o', hentry⟩ := exists_ends_onEntry mode a.context o
      obtain ⟨w, hcontext, -, hrun⟩ :=
        ((Run.ends_currentState hmode).bind hentry) ⟨a, o⟩ rfl rfl
      have hsession : (enterStartState.run.run ⟨a, o⟩).2 = w := congrArg Prod.snd hrun
      exact ⟨mode, by rw [hsession, hcontext, hmode]⟩
  | @issued a o e _ ih =>
      obtain ⟨mode, hmode⟩ := ih
      obtain ⟨-, -, hshown⟩ :=
        run_step (x := ⟨mode, a.context.stack, o⟩) (w := ⟨a, o⟩) ⟨hmode, rfl⟩ rfl e
      exact ⟨_, hshown.1⟩

/-! ### Requests -/

/-- What can be asked of a controller. -/
inductive Request where
  /-- Issue an event. -/
  | issue (e : Event)
  /-- Take a snapshot. -/
  | snapshot
  deriving DecidableEq, Repr

/-- What is answered to a request. -/
inductive Answer where
  | issued (result : Except Interrupt Unit)
  | snapshot (result : Except Fault (List Nat))
  deriving DecidableEq, Repr

/-- Performs a request. -/
def Request.perform (w : Running Mode Owner) : Request → Answer × Running Mode Owner
  | .issue e => ((e.run.run.run w).map .issued id)
  | .snapshot => (.snapshot (w.session.context.snapshot Mode.roster), w)

/-- What is seen of a machine after a request. -/
structure Observation where
  answer : Answer
  owner : Owner
  /-- The current mode, or the fault for which there is none. -/
  state : Except Fault Mode
  stack : List Mode
  snapshot : Except Fault (List Nat)
  deriving DecidableEq, Repr

/-- What is seen of `w` after a request that was answered by `answer`. -/
def observe (answer : Answer) (w : Running Mode Owner) : Observation :=
  { answer
    owner := w.owner
    state := w.session.context.state
    stack := w.session.context.stack
    snapshot := w.session.context.snapshot Mode.roster }

/-- What is seen of `w` while requests are performed, before each of which the menu is jammed or
freed. -/
def observations : List (Bool × Request) → Running Mode Owner → List Observation
  | [], _ => []
  | (jamMenu, r) :: rest, w =>
    let (answer, w) := r.perform { w with owner := w.owner.jam jamMenu }
    observe answer w :: observations rest w

/-! ### Machines that are alike -/

/-- Two machines are alike if they are in one position, whatever else they hold. -/
def Alike (w w' : Running Mode Owner) : Prop :=
  ∃ x : Position, (x.Shown w.session.context ∧ w.owner = x.owner) ∧
    x.Shown w'.session.context ∧ w'.owner = x.owner

namespace Alike

variable {w w' : Running Mode Owner}

/-- Machines that are alike have the same snapshot. -/
theorem snapshot (h : Alike w w') :
    w.session.context.snapshot Mode.roster = w'.session.context.snapshot Mode.roster := by
  obtain ⟨x, ⟨⟨hmode, hstack⟩, -⟩, ⟨hmode', hstack'⟩, -⟩ := h
  rw [Context.snapshot_eq hmode, Context.snapshot_eq hmode', hstack, hstack']

/-- Machines that are alike look the same. -/
theorem observe (h : Alike w w') (answer : Answer) :
    Controller.observe answer w = Controller.observe answer w' := by
  have hsnapshot := h.snapshot
  obtain ⟨x, ⟨⟨hmode, hstack⟩, howner⟩, ⟨hmode', hstack'⟩, howner'⟩ := h
  simp only [Controller.observe, Context.state, hmode, hmode', hstack, hstack', howner, howner',
    hsnapshot]

/-- They stay alike when both menus are jammed or freed. -/
theorem jam (h : Alike w w') (jamMenu : Bool) :
    Alike { w with owner := w.owner.jam jamMenu } { w' with owner := w'.owner.jam jamMenu } := by
  obtain ⟨x, ⟨hshown, howner⟩, hshown', howner'⟩ := h
  exact ⟨{ x with owner := x.owner.jam jamMenu }, ⟨hshown, congrArg (Owner.jam · jamMenu) howner⟩,
    hshown', congrArg (Owner.jam · jamMenu) howner'⟩

/-- **A request makes no difference** between machines that are alike. -/
theorem perform (h : Alike w w') (r : Request) :
    (r.perform w).1 = (r.perform w').1 ∧ Alike (r.perform w).2 (r.perform w').2 := by
  cases r with
  | snapshot => exact ⟨congrArg Answer.snapshot h.snapshot, h⟩
  | issue e =>
      obtain ⟨x, ⟨hshown, howner⟩, hshown', howner'⟩ := h
      obtain ⟨hresult, howner, hshown⟩ := run_step hshown howner e
      obtain ⟨hresult', howner', hshown'⟩ := run_step hshown' howner' e
      exact ⟨congrArg Answer.issued (hresult.trans hresult'.symm), _, ⟨hshown, howner⟩, hshown',
        howner'⟩

/-- **Nor does a script of requests.** -/
theorem observations (h : Alike w w') (script : List (Bool × Request)) :
    Controller.observations script w = Controller.observations script w' := by
  induction script generalizing w w' with
  | nil => rfl
  | cons head rest ih =>
      obtain ⟨jamMenu, r⟩ := head
      obtain ⟨hanswer, halike⟩ := (h.jam jamMenu).perform r
      simp only [Controller.observations]
      rw [hanswer, halike.observe, ih halike]

end Alike

end Controller

/-- **A resumed player cannot be told from the original.** Let `a` be a controller that calls led
to, also ones that panicked. Its snapshot can be taken, and is restored into any controller `b`.
From then on, with equal owners, a script of requests shows the same of both: what is answered,
the panics included, what is done to the owner, and the mode, the stack and the snapshot that
each request leaves. -/
theorem resumed_indistinguishable {a : Controller} (ha : Controller.Reached a) :
    ∃ ids, a.context.snapshot Mode.roster = .ok ids ∧
      ∀ b : Controller,
        (b.restore Mode.roster ids).1 = .ok () ∧
        ∀ (o : Owner) (script : List (Bool × Controller.Request)),
          Controller.observations script ⟨(b.restore Mode.roster ids).2, o⟩ =
            Controller.observations script ⟨a, o⟩ := by
  obtain ⟨mode, hmode⟩ := ha.exists_mode
  refine ⟨_, Context.snapshot_eq hmode, fun b => ?_⟩
  obtain ⟨ids, hids, hrestored⟩ := Context.restore_snapshot Mode.roster_faithful b.context hmode
  obtain rfl := Except.ok.inj ((Context.snapshot_eq hmode).symm.trans hids)
  have hresumed : b.restore Mode.roster ((a.context.stack ++ [mode]).map Mode.roster.id) =
      (.ok (), { b with context :=
        { state? := some mode, stack := a.context.stack, debug := b.context.debug } }) := by
    unfold Session.restore
    rw [hrestored]
  rw [hresumed]
  refine ⟨rfl, fun o script => Controller.Alike.observations ?_ script⟩
  exact ⟨⟨mode, a.context.stack, o⟩, ⟨⟨rfl, rfl⟩, rfl⟩, ⟨hmode, rfl⟩, rfl⟩

/-- A player is playing, opens the menu, and leaves it while it is jammed, which panics: the
machine plays again, and the context still has the name `Back`. A machine that is traced, and in
the middle of a transition, takes up the snapshot of that. Both then do the same when the menu is
opened, refuses `Stop`, and is left. -/
theorem resumed_after_jam :
    let w₀ : Running Mode Owner :=
      { session := Controller.start, owner := { jamMenu := true } }
    let w₁ := (Controller.play 7).run.run w₀
    let w₂ := Controller.menu.run.run w₁.2
    let w₃ := Controller.back.run.run w₂.2
    let a := w₃.2.session
    let b : Controller :=
      { context := { state? := none, previous? := some .browsing, stack := [.stopped, .stopped],
                     transition := "Quit", debug := true }
        messages := ["NEW STATE    : Main.Stopped"] }
    let script : List (Bool × Controller.Request) :=
      [(false, .issue .menu), (true, .issue .stop), (false, .snapshot), (true, .issue .back)]
    Controller.Reached a ∧ w₃.1 = .error .panic ∧ a.context.transition = "Back" ∧
      a.context.snapshot Mode.roster = .ok [1] ∧
      Controller.observations script ⟨(b.restore Mode.roster [1]).2, {}⟩ =
        Controller.observations script ⟨a, {}⟩ := by
  intro w₀ w₁ w₂ w₃ a b script
  have ha : Controller.Reached a :=
    .issued w₂.2.owner .back (.issued w₁.2.owner .menu (.issued w₀.owner (.play 7) .start))
  have hsnapshot : a.context.snapshot Mode.roster = .ok [1] := by decide
  refine ⟨ha, by decide, by decide, hsnapshot, ?_⟩
  obtain ⟨ids, hids, hresumed⟩ := resumed_indistinguishable ha
  obtain rfl : [1] = ids := Except.ok.inj (hsnapshot.symm.trans hids)
  exact (hresumed b).2 {} script

end StateMachine.Player
