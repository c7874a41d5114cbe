import StateMachine.Player.Description
import StateMachine.Proofs.Interpretation
import StateMachine.Proofs.Player.Table

/-!
# The Controller Refines the Description

The player machine exists twice: as a description and as a controller written out for it. A
script is a list of events, before each of which the player's menu may jam or be freed. Call
by call, the controller does with a script what the interpretation of the description does:
it gives the same result, with the same owner, in the same state and with the same stack.

## Proof strategy

The two meet at the table of positions. The controller keeps to it (`Controller.takes_step`),
and so does the interpretation (`Description.issue_step`), mode by mode and event by event.
Both runs are then one run along the table.

## Conventions

* The conditions and actions of the description mean what their texts say of a player; the
  only parameter is `track`.
* A panic is a result like any other. The machine goes on with the next event.

## Main results

* `Description.issue_step`: the interpretation does what the table says.
* `controller_refines_description`: **for every script**, the reports of the controller are
  those of the interpretation.
-/

namespace StateMachine.Player

open Execution Program

/-! ### What the description means -/

/-- The place of a mode. -/
def Mode.place : Mode → Place
  | stopped => ⟨"Main", "Stopped"⟩
  | playing => ⟨"Main", "Playing"⟩
  | browsing => ⟨"Menu", "Browsing"⟩

/-- The transition of an event. -/
def Controller.Event.transition : Controller.Event → String
  | .back => "Back"
  | .menu => "Menu"
  | .play _ => "Play"
  | .quit => "Quit"
  | .stop => "Stop"

/-- The arguments of an event. -/
def Controller.Event.arguments : Controller.Event → List UInt32
  | .play track => [track]
  | .back | .menu | .quit | .stop => []

namespace Description

/-- What the texts of the description mean to a player. -/
def meaning : Meaning Owner UInt32 where
  holds bs condition _ :=
    match condition with
    | "track > 0" => (bs.lookup "track").any (· > 0)
    | _ => false
  perform bs a o :=
    match a.text with
    | "stopped()" => (o.record .stopped, false)
    | "load(track)" => ({ o with loaded := bs.lookup "track" }.record .load, false)
    | "rejected = Some(track)" => ({ o with rejected := bs.lookup "track" }, false)
    | "pause_output()" => (o.record .pauseOutput, false)
    | "ignored()" => (o.record .ignored, false)
    | "show_menu()" => (o.record .showMenu, false)
    | "hide_menu()" => if o.jamMenu then (o, true) else (o.record .hideMenu, false)
    | _ => (o, false)
  -- no pop of the description has arguments
  value _ _ _ := 0

/-- The map of a stopped or playing player. -/
def mainMap : Map :=
  { name := "Main", line := 3, states := [stopped, playing], defaultState := some mainDefault }

/-- The map of the menu. -/
def menuMap : Map :=
  { name := "Menu", line := 19, states := [browsing] }

end Description

/-- A position as an interpretation has it. -/
def Position.configuration (x : Position) : Configuration Owner :=
  { state := x.mode.place, stack := x.stack.map Mode.place, owner := x.owner }

namespace Description

open Machine

variable {x : Position}

/-- A place is reported by the name of its mode. -/
theorem scopedName_place (mode : Mode) :
    scopedName mode.place.state mode.place.map = mode.name := by
  cases mode <;> decide +kernel

/-- A transition that `Browsing` does not declare is refused. -/
theorem issue_browsing {name : String} (h : browsing.defines name = false)
    (args : List UInt32) (stack : List Mode) (o : Owner) :
    machine.issue meaning name args (Position.configuration ⟨.browsing, stack, o⟩) =
      ((Position.refuse ⟨.browsing, stack, o⟩ name).1,
        (Position.refuse ⟨.browsing, stack, o⟩ name).2.configuration) := by
  have hnone : machine.answer? meaning name args
      (Position.configuration ⟨.browsing, stack, o⟩) = none := by
    have hall : Candidate.all menuMap browsing name = [] := by
      have hown := Candidate.ofState_eq_nil h
      rw [Candidate.all, hown]
      rfl
    show ((Candidate.all menuMap browsing name).find? _).map _ = none
    rw [hall]
    rfl
  rw [issue_of_none hnone]
  have hname : scopedName (Position.configuration ⟨.browsing, stack, o⟩).state.state
      (Position.configuration ⟨.browsing, stack, o⟩).state.map = Mode.browsing.name :=
    scopedName_place .browsing
  rw [hname]
  rfl

/-- **`Stop`.** -/
theorem issue_stop :
    machine.issue meaning "Stop" [] x.configuration = (x.stop.1, x.stop.2.configuration) := by
  obtain ⟨mode, stack, o⟩ := x
  cases mode with
  | stopped => exact issue_of_ends rfl rfl
  | playing => exact issue_of_ends rfl rfl
  | browsing => exact issue_browsing rfl _ _ _

/-- `Stopped` takes the first guard of `Play` for a track other than 0, and the second one for
track 0. -/
theorem answer?_stopped_play (stack : List Mode) (o : Owner) (track : UInt32) :
    machine.answer? meaning "Play" [track] (Position.configuration ⟨.stopped, stack, o⟩) =
      ((Candidate.ofState "Play" stopped)[if track > 0 then 0 else 1]?).map
        fun k => (mainMap, k) := by
  show (match decide (track > 0) with
    | true => (Candidate.ofState "Play" stopped)[0]?
    | false => (Candidate.ofState "Play" stopped)[1]?).map (fun k => (mainMap, k)) = _
  by_cases htrack : track > 0
  · rw [if_pos htrack, decide_eq_true htrack]
  · rw [if_neg htrack, decide_eq_false htrack]

/-- **`Play`.** -/
theorem issue_play (track : UInt32) :
    machine.issue meaning "Play" [track] x.configuration =
      ((x.play track).1, (x.play track).2.configuration) := by
  obtain ⟨mode, stack, o⟩ := x
  cases mode with
  | stopped =>
      have hanswer := answer?_stopped_play stack o track
      unfold Position.play
      by_cases htrack : track > 0
      · rw [if_pos htrack] at hanswer
        simp only [if_pos htrack]
        exact issue_of_ends hanswer rfl
      · rw [if_neg htrack] at hanswer
        simp only [if_neg htrack]
        exact issue_of_ends hanswer rfl
  | playing => exact issue_of_ends rfl rfl
  | browsing => exact issue_browsing rfl _ _ _

/-- **`Menu`.** -/
theorem issue_menu :
    machine.issue meaning "Menu" [] x.configuration = (x.menu.1, x.menu.2.configuration) := by
  obtain ⟨mode, stack, o⟩ := x
  cases mode with
  | stopped => exact issue_of_ends rfl rfl
  | playing =>
      have hpushed : (stack ++ [Mode.playing]).map Mode.place =
          stack.map Mode.place ++ [Mode.playing.place] := List.map_append
      unfold Position.menu Position.configuration
      simp only [hpushed]
      exact issue_of_ends rfl rfl
  | browsing => exact issue_browsing rfl _ _ _

/-- The place to return to is that of the mode to return to. -/
theorem getLast?_configuration :
    x.configuration.stack.getLast? = x.stack.getLast?.map Mode.place :=
  List.getLast?_map

/-- A pop of `Browsing` returns as the position does. -/
theorem pop_configuration {mode : Mode} (h : x.stack.getLast? = some mode) :
    { x.configuration with
      state := mode.place, stack := x.configuration.stack.dropLast } = x.pop.2.configuration := by
  unfold Position.pop Position.configuration
  rw [h, List.map_dropLast]

/-- A pop of `Browsing` that issues nothing returns, whether its actions panic or not. -/
theorem fire_return {k : Candidate} {stack : List Mode} {o : Owner} {y : Position}
    {panics : Bool} (htransfer : k.guard.transfer = .pop none [])
    (hact : meaning.actions (k.bindings []) k.guard.actions
      (Position.configuration ⟨.browsing, stack, o⟩) = (panics, y.configuration)) :
    machine.fire meaning menuMap k [] (Position.configuration ⟨.browsing, stack, o⟩) =
      .ends (if panics then .error .panic else y.pop.1.mapError .fault) y.pop.2.configuration := by
  have hlast := getLast?_configuration (x := y)
  cases htop : y.stack.getLast? with
  | none =>
      rw [htop] at hlast
      rw [fire_pop_empty htransfer rfl hact hlast]
      unfold Position.pop
      rw [htop]
      rfl
  | some mode =>
      rw [htop] at hlast
      rw [fire_pop htransfer rfl hact hlast, pop_configuration htop]
      unfold Position.pop
      rw [htop]
      cases panics <;> rfl

/-- **`Back`.** -/
theorem issue_back :
    machine.issue meaning "Back" [] x.configuration = (x.back.1, x.back.2.configuration) := by
  obtain ⟨mode, stack, o⟩ := x
  cases mode with
  | stopped => exact issue_of_ends rfl rfl
  | playing => exact issue_of_ends rfl rfl
  | browsing =>
      obtain ⟨k, hanswer, htransfer, hjammed, hhidden⟩ : ∃ k,
          machine.answer? meaning "Back" [] (Position.configuration ⟨.browsing, stack, o⟩) =
            some (menuMap, k) ∧
          k.guard.transfer = .pop none [] ∧
          (o.jamMenu = true →
            meaning.actions (k.bindings []) k.guard.actions
              (Position.configuration ⟨.browsing, stack, o⟩) =
                (true, Position.configuration ⟨.browsing, stack, o⟩)) ∧
          (o.jamMenu = false →
            meaning.actions (k.bindings []) k.guard.actions
              (Position.configuration ⟨.browsing, stack, o⟩) =
                (false, Position.configuration ⟨.browsing, stack, o.record .hideMenu⟩)) := by
        obtain ⟨calls, loaded, rejected, jam⟩ := o
        exact ⟨_, rfl, rfl, by rintro ⟨⟩; rfl, by rintro ⟨⟩; rfl⟩
      unfold Position.back
      cases hjam : o.jamMenu with
      | true =>
          simp only
          exact issue_of_ends hanswer (fire_return htransfer (hjammed hjam))
      | false =>
          simp only
          exact issue_of_ends hanswer (fire_return htransfer (hhidden hjam))

/-- **`Quit`.** -/
theorem issue_quit :
    machine.issue meaning "Quit" [] x.configuration = (x.quit.1, x.quit.2.configuration) := by
  obtain ⟨mode, stack, o⟩ := x
  cases mode with
  | stopped => exact issue_of_ends rfl rfl
  | playing => exact issue_of_ends rfl rfl
  | browsing =>
      obtain ⟨k, hanswer, htransfer, hact, harguments⟩ : ∃ k,
          machine.answer? meaning "Quit" [] (Position.configuration ⟨.browsing, stack, o⟩) =
            some (menuMap, k) ∧
          k.guard.transfer = .pop (some "Stop") [] ∧
          (∀ c, meaning.actions (k.bindings []) k.guard.actions c = (false, c)) ∧
          k.guard.popArguments = [] := ⟨_, rfl, rfl, fun _ => rfl, rfl⟩
      have hlast := getLast?_configuration (x := ⟨.browsing, stack, o⟩)
      cases htop : stack.getLast? with
      | none =>
          rw [htop] at hlast
          rw [issue_of_ends hanswer (fire_pop_empty htransfer rfl (hact _) hlast)]
          simp only [Position.quit, Position.pop, htop]
          rfl
      | some top =>
          rw [htop] at hlast
          have hpop := pop_configuration (x := ⟨.browsing, stack, o⟩) htop
          rw [issue_of_issues hanswer (fire_pop htransfer rfl (hact _) hlast), harguments, hpop]
          simp only [Position.quit, Position.pop, htop]
          exact issue_stop

/-- **The interpretation does what the table says.** -/
theorem issue_step (e : Controller.Event) :
    machine.issue meaning e.transition e.arguments x.configuration =
      ((x.step e).1, (x.step e).2.configuration) := by
  cases e with
  | back => exact issue_back
  | menu => exact issue_menu
  | play track => exact issue_play track
  | quit => exact issue_quit
  | stop => exact issue_stop

end Description

/-! ### Scripts -/

/-- What is seen of a player machine after a call. -/
structure Report where
  result : Except Interrupt Unit
  owner : Owner
  /-- The current state, if there is one. -/
  state? : Option Place
  stack : List Place

/-- Events, each with whether the menu is jammed when it comes. -/
abbrev Script := List (Bool × Controller.Event)

/-- The owner with a menu that is jammed or not. -/
def Owner.jam (o : Owner) (jamMenu : Bool) : Owner :=
  { o with jamMenu }

namespace Controller

/-- What is seen of the controller. -/
def report (result : Except Interrupt Unit) (w : Running Mode Owner) : Report :=
  { result
    owner := w.owner
    state? := w.session.context.state?.map Mode.place
    stack := w.session.context.stack.map Mode.place }

/-- What the controller does with a script. -/
def follow : Script → Running Mode Owner → List Report
  | [], _ => []
  | (jamMenu, e) :: rest, w =>
    let (result, w) := e.run.run.run { w with owner := w.owner.jam jamMenu }
    report result w :: follow rest w

/-- What the controller does from the beginning on: the start state is entered, and a script
is followed. -/
def reports (o : Owner) (script : Script) : List Report :=
  let (result, w) := enterStartState.run.run { session := Controller.start, owner := o }
  report result w :: follow script w

end Controller

namespace Description

/-- What is seen of the interpretation. -/
def report (result : Except Interrupt Unit) (c : Configuration Owner) : Report :=
  { result, owner := c.owner, state? := some c.state, stack := c.stack }

/-- What the interpretation does with a script. -/
def follow : Script → Configuration Owner → List Report
  | [], _ => []
  | (jamMenu, e) :: rest, c =>
    let (result, c) := machine.issue meaning e.transition e.arguments
      { c with owner := c.owner.jam jamMenu }
    report result c :: follow rest c

/-- What the interpretation of the valid machine does from the beginning on. -/
def reports (v : Validated) (o : Owner) (script : Script) : List Report :=
  let (result, c) := v.enterStartState meaning o
  report result c :: follow script c

end Description

variable {x : Position} {w : Running Mode Owner}

/-- The controller in a position is seen as the interpretation is. -/
theorem report_configuration (result : Except Interrupt Unit)
    (hshown : x.Shown w.session.context) (howner : w.owner = x.owner) :
    Controller.report result w = Description.report result x.configuration := by
  unfold Controller.report Description.report
  rw [hshown.1, hshown.2, howner]
  rfl

/-- From one position on, both do the same with a script. -/
theorem follow_configuration (script : Script) (hshown : x.Shown w.session.context)
    (howner : w.owner = x.owner) :
    Controller.follow script w = Description.follow script x.configuration := by
  induction script generalizing x w with
  | nil => rfl
  | cons head rest ih =>
      obtain ⟨jamMenu, e⟩ := head
      let y : Position := { x with owner := x.owner.jam jamMenu }
      obtain ⟨c', hends, hshown'⟩ := Controller.takes_step (x := y) e w.session.context hshown rfl
      obtain ⟨w', hcontext, howner', hrun⟩ :=
        hends { w with owner := w.owner.jam jamMenu } rfl (congrArg (Owner.jam · jamMenu) howner)
      have hissue : Description.machine.issue Description.meaning e.transition e.arguments
          { x.configuration with owner := x.configuration.owner.jam jamMenu } =
            ((y.step e).1, (y.step e).2.configuration) := Description.issue_step (x := y) e
      rw [← hcontext] at hshown'
      simp only [Controller.follow, Description.follow, hrun, hissue,
        report_configuration _ hshown' howner', ih hshown' howner']

/-- The description is valid, and the machine starts in `Stopped`. -/
theorem Description.validate_machine : ∃ v, Description.machine.validate = .ok v ∧
    v.standing.current.place = Mode.stopped.place := by
  have hplace : (Description.machine.validate.toOption.map fun v => v.standing.current.place) =
      some Mode.stopped.place := by
    decide +kernel
  obtain ⟨v, hv, hplace⟩ := Option.map_eq_some_iff.mp hplace
  exact ⟨v, toOption_eq_some_iff.mp hv, hplace⟩

/-- **The controller refines the description.** -/
theorem controller_refines_description :
    ∃ v, Description.machine.validate = .ok v ∧ ∀ (o : Owner) (script : Script),
      Controller.reports o script = Description.reports v o script := by
  obtain ⟨v, hv, hstart⟩ := Description.validate_machine
  refine ⟨v, hv, fun o script => ?_⟩
  obtain ⟨c', hends, hshown⟩ := Controller.takes_enterStartState (o := o) Controller.start.context
    ⟨rfl, rfl⟩ rfl
  obtain ⟨w, hcontext, howner, hrun⟩ := hends ⟨Controller.start, o⟩ rfl rfl
  have henter : v.enterStartState Description.meaning o =
      (.ok (), ((Position.start o).record .stopped).configuration) := by
    unfold Validated.enterStartState
    rw [hstart, Machine.machine_of_validate hv]
    rfl
  unfold Controller.reports Description.reports
  rw [← hcontext] at hshown
  simp only [hrun, henter, report_configuration _ hshown howner,
    follow_configuration script hshown howner]

end StateMachine.Player
