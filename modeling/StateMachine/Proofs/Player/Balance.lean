import StateMachine.Proofs.Player.Refinement

/-!
# The Player's Calls Balance

The owner of the player machine records its calls, and the record grows with every event. What
the record says can be told from the mode alone: every pause is followed by a stop, and every
track that was loaded was paused since, unless it plays. The stack holds what the menu returns
to, and is empty without the menu.

## Proof strategy

`Position.Balanced` is the invariant. It is shown for the table of positions, event by event
(`Position.Balanced.step`), and carried over to the controller by `Controller.takes_step`. The
counts and the shape of the stack need each other: `Quit` stops the mode that it returns to, and
only if this is `playing` a pause goes with the stop.

## Conventions

* A script says before each event whether the menu is jammed then.
* A panic ends a call and not the script. The machine goes on with the next event.

## Main results

* `Position.Balanced.step`: one event keeps the balance.
* `Position.Balanced.refused_iff`: which events are refused, and how.
* `calls_balance`: after **every script**, the calls balance, the stack is what the mode says,
  and the next event is refused exactly in the menu, if it is `Play`, `Stop` or `Menu`.
-/

namespace StateMachine.Player

open Execution

/-! ### Counting calls -/

/-- How often a method was called. -/
def Owner.count (o : Owner) (call : Call) : Nat :=
  o.calls.count call

/-- A recorded call counts once. -/
@[simp] theorem Owner.count_record (o : Owner) (call other : Call) :
    (o.record call).count other = o.count other + if call = other then 1 else 0 := by
  simp [Owner.count, Owner.record, List.count_append, List.count_singleton]

/-- The events that the menu does not know. -/
inductive Controller.Event.IsForeign : Controller.Event → Prop
  | play (track : UInt32) : IsForeign (.play track)
  | stop : IsForeign .stop
  | menu : IsForeign .menu

/-! ### The invariant -/

namespace Position

/-- What holds of a position between two events. -/
structure Balanced (x : Position) : Prop where
  /-- There is something to return to in the menu, and only there. -/
  stack : x.stack = if x.mode = .browsing then [.playing] else []
  /-- The player was stopped once at first, and once after each pause. -/
  stops : x.owner.count .stopped = x.owner.count .pauseOutput + 1
  /-- What was loaded was paused since, unless it plays, under the menu or not. -/
  loads : x.owner.count .load = x.owner.count .pauseOutput + if x.mode = .stopped then 0 else 1

namespace Balanced

variable {x : Position}

/-- A call that is neither of the three counts for nothing. -/
theorem record (h : x.Balanced) {call : Call}
    (hcall : call ≠ .stopped ∧ call ≠ .pauseOutput ∧ call ≠ .load) : (x.record call).Balanced := by
  obtain ⟨hstopped, hpause, hload⟩ := hcall
  refine ⟨h.stack, ?_, ?_⟩
  · show (x.owner.record call).count .stopped = (x.owner.record call).count .pauseOutput + 1
    rw [Owner.count_record, Owner.count_record, if_neg hstopped, if_neg hpause]
    exact h.stops
  · show (x.owner.record call).count .load = (x.owner.record call).count .pauseOutput + _
    rw [Owner.count_record, Owner.count_record, if_neg hload, if_neg hpause]
    exact h.loads

/-- An ignored event counts for nothing. -/
theorem ignore (h : x.Balanced) : x.ignore.2.Balanced :=
  h.record (by decide)

/-- **From the menu, a player returns to playing.** -/
theorem pop_eq (h : x.Balanced) (hmode : x.mode = .browsing) :
    x.pop = (.ok (), { x with mode := .playing, stack := [] }) := by
  have hstack : x.stack = [.playing] := by rw [h.stack, if_pos hmode]
  simp [pop, hstack]

/-- Playing goes on as it was before the menu. -/
theorem returned (h : x.Balanced) (hmode : x.mode = .browsing) :
    ({ x with mode := .playing, stack := [] } : Position).Balanced := by
  have hloads := h.loads
  rw [hmode] at hloads
  exact ⟨rfl, h.stops, hloads⟩

/-! ### Events -/

/-- `Stop` pauses what plays, and then stops once. -/
theorem stop (h : x.Balanced) : x.stop.2.Balanced := by
  obtain ⟨mode, stack, o⟩ := x
  obtain ⟨hstack, hstops, hloads⟩ := h
  cases mode with
  | stopped => exact ⟨rfl, hstops, hloads⟩
  | playing =>
      refine ⟨hstack, ?_, ?_⟩
      · simpa [Position.stop, Position.record] using hstops
      · simpa [Position.stop, Position.record] using hloads
  | browsing => exact ⟨hstack, hstops, hloads⟩

/-- `Play` loads a track where none plays. -/
theorem play (h : x.Balanced) (track : UInt32) : (x.play track).2.Balanced := by
  obtain ⟨mode, stack, o⟩ := x
  cases mode with
  | stopped =>
      obtain ⟨hstack, hstops, hloads⟩ := h
      by_cases htrack : track > 0
      · have hplay : (Position.play ⟨.stopped, stack, o⟩ track).2 =
            ⟨.playing, stack, { o with loaded := some track }.record .load⟩ := by
          simp [Position.play, htrack]
        have hcount : ∀ call, ({ o with loaded := some track } : Owner).count call = o.count call :=
          fun _ => rfl
        rw [hplay]
        refine ⟨hstack, ?_, ?_⟩
        · simpa [hcount] using hstops
        · simpa [hcount] using hloads
      · have hplay : (Position.play ⟨.stopped, stack, o⟩ track).2 =
            ⟨.stopped, stack, { o with rejected := some track }⟩ := by
          simp [Position.play, htrack]
        rw [hplay]
        exact ⟨hstack, hstops, hloads⟩
  | playing => exact h.ignore
  | browsing => exact h

/-- `Menu` stacks what plays. -/
theorem menu (h : x.Balanced) : x.menu.2.Balanced := by
  obtain ⟨mode, stack, o⟩ := x
  cases mode with
  | stopped => exact h.ignore
  | playing =>
      obtain ⟨hstack, hstops, hloads⟩ := h
      refine ⟨?_, ?_, ?_⟩
      · have hnone : stack = [] := hstack
        simp [Position.menu, hnone]
      · simpa [Position.menu, Position.record] using hstops
      · simpa [Position.menu, Position.record] using hloads
  | browsing => exact h

/-- `Back` returns to what plays, whether the menu is jammed or not. -/
theorem back (h : x.Balanced) : x.back.2.Balanced := by
  cases hmode : x.mode with
  | stopped =>
      have hignored : x.back = x.ignore := by simp [Position.back, hmode]
      exact hignored ▸ h.ignore
  | playing =>
      have hignored : x.back = x.ignore := by simp [Position.back, hmode]
      exact hignored ▸ h.ignore
  | browsing =>
      have hhidden : (x.record .hideMenu).Balanced := h.record (by decide)
      by_cases hjam : x.owner.jamMenu = true
      · have hback : x.back.2 = x.pop.2 := by simp [Position.back, hmode, hjam]
        rw [hback, h.pop_eq hmode]
        exact h.returned hmode
      · have hback : x.back.2 = (x.record .hideMenu).pop.2 := by
          simp [Position.back, hmode, hjam]
        rw [hback, hhidden.pop_eq hmode]
        exact hhidden.returned hmode

/-- In the menu, `Quit` stops what plays. -/
theorem quit_eq (h : x.Balanced) (hmode : x.mode = .browsing) :
    x.quit = ({ x with mode := .playing, stack := [] } : Position).stop := by
  simp [Position.quit, hmode, h.pop_eq hmode]

/-- `Quit` stops what it returns to. -/
theorem quit (h : x.Balanced) : x.quit.2.Balanced := by
  cases hmode : x.mode with
  | stopped =>
      have hignored : x.quit = x.ignore := by simp [Position.quit, hmode]
      exact hignored ▸ h.ignore
  | playing =>
      have hignored : x.quit = x.ignore := by simp [Position.quit, hmode]
      exact hignored ▸ h.ignore
  | browsing =>
      rw [h.quit_eq hmode]
      exact (h.returned hmode).stop

/-- **One event keeps the balance.** -/
theorem step (h : x.Balanced) (e : Controller.Event) : (x.step e).2.Balanced := by
  cases e with
  | back => exact h.back
  | menu => exact h.menu
  | play track => exact h.play track
  | quit => exact h.quit
  | stop => exact h.stop

/-- Whether the menu is jammed does not matter to the balance. -/
theorem jam (h : x.Balanced) (jamMenu : Bool) :
    ({ x with owner := x.owner.jam jamMenu } : Position).Balanced :=
  ⟨h.stack, h.stops, h.loads⟩

end Balanced

/-- The balance begins when the start state is entered. -/
theorem balanced_start : ((start {}).record .stopped).Balanced :=
  ⟨rfl, by decide, by decide⟩

/-! ### Refusals -/

/-- A foreign event is refused in the menu, under its name, and changes nothing. -/
theorem step_foreign {x : Position} {e : Controller.Event} (he : e.IsForeign)
    (hmode : x.mode = .browsing) : x.step e = x.refuse e.transition := by
  cases he with
  | play track => simp [step, play, hmode, Controller.Event.transition]
  | stop => simp [step, stop, hmode, Controller.Event.transition]
  | menu => simp [step, menu, hmode, Controller.Event.transition]

/-- No fault comes of any other event, nor of any event elsewhere. -/
theorem Balanced.step_ne_fault {x : Position} (h : x.Balanced) {e : Controller.Event}
    (he : ¬ (x.mode = .browsing ∧ e.IsForeign)) (f : Fault) :
    (x.step e).1 ≠ .error (.fault f) := by
  cases hmode : x.mode with
  | stopped =>
      cases e with
      | play track =>
          by_cases htrack : track > 0 <;> simp [Position.step, Position.play, hmode, htrack]
      | back => simp [Position.step, Position.back, hmode, Position.ignore]
      | menu => simp [Position.step, Position.menu, hmode, Position.ignore]
      | quit => simp [Position.step, Position.quit, hmode, Position.ignore]
      | stop => simp [Position.step, Position.stop, hmode]
  | playing =>
      cases e with
      | play track => simp [Position.step, Position.play, hmode, Position.ignore]
      | back => simp [Position.step, Position.back, hmode, Position.ignore]
      | menu => simp [Position.step, Position.menu, hmode]
      | quit => simp [Position.step, Position.quit, hmode, Position.ignore]
      | stop => simp [Position.step, Position.stop, hmode]
  | browsing =>
      cases e with
      | play track => exact absurd ⟨hmode, .play track⟩ he
      | menu => exact absurd ⟨hmode, .menu⟩ he
      | stop => exact absurd ⟨hmode, .stop⟩ he
      | back =>
          have hhidden : (x.record .hideMenu).Balanced := h.record (by decide)
          by_cases hjam : x.owner.jamMenu = true
          · simp [Position.step, Position.back, hmode, hjam]
          · simp [Position.step, Position.back, hmode, hjam, hhidden.pop_eq hmode,
              Except.mapError]
      | quit => simp [Position.step, h.quit_eq hmode, Position.stop]

/-- **Which events are refused**: the foreign ones in the menu, under their names. -/
theorem Balanced.refused_iff {x : Position} (h : x.Balanced) (e : Controller.Event) (f : Fault) :
    (x.step e).1 = .error (.fault f) ↔
      (x.mode = .browsing ∧ e.IsForeign) ∧ f = .undefined "Menu.Browsing" e.transition := by
  by_cases he : x.mode = .browsing ∧ e.IsForeign
  · have hstep := step_foreign he.2 he.1
    rw [hstep]
    simp only [refuse, he.1, Mode.name, Except.error.injEq, Interrupt.fault.injEq]
    exact ⟨fun hf => ⟨⟨trivial, he.2⟩, hf.symm⟩, fun hf => hf.2.symm⟩
  · exact iff_of_false (h.step_ne_fault he f) fun hrefused => he hrefused.1

end Position

/-! ### Scripts -/

namespace Controller

/-- Where a script leads from `w` on. -/
def after : Script → Running Mode Owner → Running Mode Owner
  | [], w => w
  | (jamMenu, e) :: rest, w => after rest (e.run.run.run { w with owner := w.owner.jam jamMenu }).2

/-- Where a script leads from the beginning on, for a new player: the start state is entered,
and the script is followed. -/
def reached (script : Script) : Running Mode Owner :=
  after script (enterStartState.run.run { session := Controller.start, owner := {} }).2

/-- The controller in a position does with an event what the table says. -/
theorem run_step {x : Position} {w : Running Mode Owner} (hshown : x.Shown w.session.context)
    (howner : w.owner = x.owner) (e : Event) :
    (e.run.run.run w).1 = (x.step e).1 ∧ (e.run.run.run w).2.owner = (x.step e).2.owner ∧
      (x.step e).2.Shown (e.run.run.run w).2.session.context := by
  obtain ⟨c', hends, hshown'⟩ := takes_step (x := x) e w.session.context hshown rfl
  obtain ⟨w', hcontext, howner', hrun⟩ := hends w rfl howner
  rw [hrun]
  exact ⟨rfl, howner', hcontext ▸ hshown'⟩

/-- **A script keeps the balance.** -/
theorem exists_balanced_after (script : Script) {x : Position} {w : Running Mode Owner}
    (hx : x.Balanced) (hshown : x.Shown w.session.context) (howner : w.owner = x.owner) :
    ∃ y : Position, y.Balanced ∧ y.Shown (after script w).session.context ∧
      (after script w).owner = y.owner := by
  induction script generalizing x w with
  | nil => exact ⟨x, hx, hshown, howner⟩
  | cons head rest ih =>
      obtain ⟨jamMenu, e⟩ := head
      let y : Position := { x with owner := x.owner.jam jamMenu }
      obtain ⟨-, howner', hshown'⟩ :=
        run_step (x := y) (w := { w with owner := w.owner.jam jamMenu }) hshown
          (congrArg (Owner.jam · jamMenu) howner) e
      exact ih ((hx.jam jamMenu).step e) hshown' howner'

/-- So does a script from the beginning on. -/
theorem exists_balanced_reached (script : Script) :
    ∃ x : Position, x.Balanced ∧ x.Shown (reached script).session.context ∧
      (reached script).owner = x.owner := by
  obtain ⟨c', hends, hshown⟩ := takes_enterStartState (o := {}) Controller.start.context
    ⟨rfl, rfl⟩ rfl
  obtain ⟨w, hcontext, howner, hrun⟩ := hends ⟨Controller.start, {}⟩ rfl rfl
  rw [reached, hrun]
  exact exists_balanced_after script Position.balanced_start (hcontext ▸ hshown) howner

end Controller

/-- **The calls of a player balance.** Whatever a script does to a new player: there is a current
mode; the stack holds `playing` in the menu and nothing elsewhere; the player was stopped once
more than it was paused; and what was loaded was paused since, unless the player is not stopped.

Whether the menu is jammed then or not, the next event is refused if and only if it is `Play`,
`Stop` or `Menu` and comes in the menu. The refusal names the menu and the event, so it is
neither for an empty stack nor for want of a mode, and it changes nothing. -/
theorem calls_balance (script : Script) :
    let w := Controller.reached script
    ∃ mode : Mode,
      w.session.context.state? = some mode ∧
      w.session.context.stack = (if mode = .browsing then [.playing] else []) ∧
      w.owner.count .stopped = w.owner.count .pauseOutput + 1 ∧
      w.owner.count .load = w.owner.count .pauseOutput + (if mode = .stopped then 0 else 1) ∧
      ∀ (jamMenu : Bool) (e : Controller.Event),
        let before := { w with owner := w.owner.jam jamMenu }
        let (result, after) := e.run.run.run before
        result ≠ .error (.fault .emptyStack) ∧
        (∀ name, result ≠ .error (.fault (.stateUndefined name))) ∧
        match result with
        | .error (.fault f) =>
          (mode = .browsing ∧ e.IsForeign) ∧ f = .undefined "Menu.Browsing" e.transition ∧
            after.owner = before.owner ∧
            after.session.context.state? = before.session.context.state? ∧
            after.session.context.stack = before.session.context.stack
        | .ok () | .error .panic => ¬ (mode = .browsing ∧ e.IsForeign) := by
  intro w
  obtain ⟨x, hx, hshown, howner⟩ := Controller.exists_balanced_reached script
  have hstops := hx.stops
  have hloads := hx.loads
  rw [← howner] at hstops hloads
  refine ⟨x.mode, hshown.1, hshown.2.trans hx.stack, hstops, hloads, ?_⟩
  intro jamMenu e before
  let y : Position := { x with owner := x.owner.jam jamMenu }
  have hy : y.Balanced := hx.jam jamMenu
  have howner' : before.owner = y.owner := congrArg (Owner.jam · jamMenu) howner
  have hshown₀ : y.Shown before.session.context := hshown
  have hrun := Controller.run_step hshown₀ howner' e
  generalize e.run.run.run before = ran at hrun
  obtain ⟨result, after⟩ := ran
  obtain ⟨hresult, howner'', hshown'⟩ := hrun
  have hrefused : ∀ f, result = .error (.fault f) ↔
      (x.mode = .browsing ∧ e.IsForeign) ∧ f = .undefined "Menu.Browsing" e.transition := by
    intro f
    rw [show result = (y.step e).1 from hresult]
    exact hy.refused_iff e f
  have hforeign : (∀ f, result ≠ .error (.fault f)) → ¬ (x.mode = .browsing ∧ e.IsForeign) :=
    fun hnone hforeign => hnone _ ((hrefused _).mpr ⟨hforeign, rfl⟩)
  refine ⟨fun hempty => ?_, fun name hundefined => ?_, ?_⟩
  · cases ((hrefused _).mp hempty).2
  · cases ((hrefused _).mp hundefined).2
  rcases result with (f | _) | _
  · obtain ⟨⟨hmode, he⟩, hf⟩ := (hrefused f).mp rfl
    have hstay : (y.step e).2 = y := by
      rw [Position.step_foreign (x := y) he hmode]
      rfl
    rw [hstay] at howner'' hshown'
    exact ⟨⟨hmode, he⟩, hf, howner''.trans howner'.symm, hshown'.1.trans hshown₀.1.symm,
      hshown'.2.trans hshown₀.2.symm⟩
  · exact hforeign fun f hf => by cases hf
  · exact hforeign fun f hf => by cases hf

end StateMachine.Player
