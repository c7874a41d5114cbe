import StateMachine.Player.Controller
import StateMachine.Proofs.Execution.Run

/-!
# What the Player's Controller Does

Between two transitions, the controller is in a mode, has modes to return to, and has an
owner. `Position.step` is a table of what each event makes of that, and the controller keeps
to it.

## Proof strategy

Each handler is followed once, from any context in which its mode is current, by the lemmas
on the combinators it is made of. The context in the end is known in full; that of a position
is its mode and its stack.

## Main results

* `takes_step`: every public transition does what the table says, whatever else the context
  holds.
* `takes_enterStartState`: entering the start state changes the owner only.
-/

namespace StateMachine.Player

open Execution

/-- The controller between transitions, with its owner. -/
structure Position where
  mode : Mode
  /-- The modes to return to, the latest last. -/
  stack : List Mode := []
  owner : Owner
  deriving DecidableEq, Repr

namespace Position

/-- The controller at first. -/
def start (owner : Owner) : Position :=
  { mode := .stopped, owner }

/-- The owner records a call. -/
def record (x : Position) (call : Call) : Position :=
  { x with owner := x.owner.record call }

/-- The transition is ignored, and the owner told so. -/
def ignore (x : Position) : Except Interrupt Unit × Position :=
  (.ok (), x.record .ignored)

/-- The transition `name` is refused. -/
def refuse (x : Position) (name : String) : Except Interrupt Unit × Position :=
  (.error (.fault (.undefined x.mode.name name)), x)

/-- Returns to the top of the stack. -/
def pop (x : Position) : Except Fault Unit × Position :=
  match x.stack.getLast? with
  | none => (.error .emptyStack, x)
  | some mode => (.ok (), { x with mode, stack := x.stack.dropLast })

/-- What `Stop` does. -/
def stop (x : Position) : Except Interrupt Unit × Position :=
  match x.mode with
  | .stopped => (.ok (), { x with stack := [] })
  | .playing => (.ok (), { (x.record .pauseOutput).record .stopped with mode := .stopped })
  | .browsing => x.refuse "Stop"

/-- What `Play` does with a track. -/
def play (x : Position) (track : UInt32) : Except Interrupt Unit × Position :=
  match x.mode with
  | .stopped =>
    if track > 0 then
      (.ok (), { x with
        mode := .playing
        owner := { x.owner with loaded := some track }.record .load })
    else (.ok (), { x with owner := { x.owner with rejected := some track } })
  | .playing => x.ignore
  | .browsing => x.refuse "Play"

/-- What `Menu` does. -/
def menu (x : Position) : Except Interrupt Unit × Position :=
  match x.mode with
  | .stopped => x.ignore
  | .playing =>
    (.ok (), { x.record .showMenu with mode := .browsing, stack := x.stack ++ [.playing] })
  | .browsing => x.refuse "Menu"

/-- What `Back` does: hiding a jammed menu panics, but the machine returns even so. -/
def back (x : Position) : Except Interrupt Unit × Position :=
  match x.mode with
  | .stopped | .playing => x.ignore
  | .browsing =>
    if x.owner.jamMenu then (.error .panic, x.pop.2)
    else ((x.record .hideMenu).pop.1.mapError .fault, (x.record .hideMenu).pop.2)

/-- What `Quit` does: if there is a mode to return to, it is stopped. -/
def quit (x : Position) : Except Interrupt Unit × Position :=
  match x.mode with
  | .stopped | .playing => x.ignore
  | .browsing =>
    match x.pop with
    | (.ok (), y) => y.stop
    | (.error f, y) => (.error (.fault f), y)

/-- What an event does. -/
def step (x : Position) : Controller.Event → Except Interrupt Unit × Position
  | .back => x.back
  | .menu => x.menu
  | .play track => x.play track
  | .quit => x.quit
  | .stop => x.stop

/-- The position in which the context `c` is, but for the owner. -/
def Shown (x : Position) (c : Context Mode) : Prop :=
  c.state? = some x.mode ∧ c.stack = x.stack

end Position

namespace Controller

open Run

variable {c : Context Mode} {o : Owner} {x : Position}

/-! ### Actions -/

/-- A call is recorded. -/
theorem ends_call (k : Call) : Ends (call k) c o (.ok ()) c (o.record k) :=
  ends_onOwner _

/-- A track is loaded. -/
theorem ends_load (track : UInt32) :
    Ends (load track) c o (.ok ()) c ({ o with loaded := some track }.record .load) :=
  ends_onOwner _

/-- A track is rejected. -/
theorem ends_reject (track : UInt32) :
    Ends (reject track) c o (.ok ()) c { o with rejected := some track } :=
  ends_onOwner _

/-- Nothing is done on the way out of a stopped player, or into playing. -/
theorem ends_silent : Ends (pure () : Step) c o (.ok ()) c o :=
  ends_pure ()

/-- Hiding the menu panics if it is jammed. -/
theorem ends_hideMenu :
    Ends hideMenu c o (if o.jamMenu then .error .panic else .ok ()) c
      (if o.jamMenu then o else o.record .hideMenu) := by
  refine ends_get_bind fun w _ ho => ?_
  rw [ho]
  split
  · exact ends_throw .panic
  · exact ends_call .hideMenu

/-- A transition that nothing handles is refused under its name. -/
theorem ends_unhandled (mode : Mode) :
    Ends (unhandled mode) c o (.error (.fault (.undefined mode.name c.transition))) c o := by
  refine ends_get_bind fun w hc _ => ?_
  rw [hc]
  exact ends_throw _

/-! ### Handlers -/

/-- `Main` ignores a transition. -/
theorem ends_mainDefault (mode : Mode) :
    Ends (mainDefault mode) c o (.ok ()) (c.clearState.setState mode) (o.record .ignored) :=
  (ends_call .ignored).transact (ends_setState mode)

/-- Stopped already, the machine empties its stack. -/
theorem ends_mainStop_stopped :
    Ends (mainStop .stopped) c o (.ok ()) (c.clearState.emptyStack.setState .stopped) o := by
  have hsilent : mainStop .stopped =
      Run.transact Run.emptyStack (Run.setState Mode.roster .stopped) :=
    rfl
  rw [hsilent]
  exact ends_emptyStack.transact (ends_setState _)

/-- A track other than 0 is loaded and played. -/
theorem ends_stoppedPlay_load {track : UInt32} (h : track > 0) :
    Ends (stoppedPlay .stopped track) c o (.ok ()) (c.clearState.setState .playing)
      ({ o with loaded := some track }.record .load) := by
  unfold stoppedPlay
  rw [if_pos h]
  exact ends_silent.bind ((ends_load track).transact ((ends_setState _).bind ends_silent))

/-- Track 0 is rejected. -/
theorem ends_stoppedPlay_reject {track : UInt32} (h : ¬ track > 0) :
    Ends (stoppedPlay .stopped track) c o (.ok ()) (c.clearState.setState .stopped)
      { o with rejected := some track } := by
  unfold stoppedPlay
  rw [if_neg h]
  exact (ends_reject track).transact (ends_setState _)

/-- Playing is paused and stopped. -/
theorem ends_playingStop :
    Ends (playingStop .playing) c o (.ok ()) (c.setState .stopped)
      ((o.record .pauseOutput).record .stopped) := by
  unfold playingStop
  exact (ends_call .pauseOutput).bind ((ends_setState _).bind (ends_call .stopped))

/-- The menu is shown over what plays. -/
theorem ends_playingMenu :
    Ends (playingMenu .playing) c o (.ok ()) (c.pushState .browsing) (o.record .showMenu) := by
  unfold playingMenu
  exact (ends_pushState _).bind (ends_call .showMenu)

/-- The menu is hidden, and the machine returns whether or not that panics. -/
theorem ends_browsingBack {result : Except Interrupt Unit} {popped : Except Fault Unit}
    {c' : Context Mode} {o₁ o' : Owner}
    (hhide : Ends hideMenu c.clearState o result c.clearState o₁)
    (hpop : Ends (Run.popState Mode.roster) (c.clearState.setState .browsing) o₁
      (popped.mapError .fault) c' o') :
    Ends (browsingBack .browsing) c o (result >>= fun _ => popped.mapError .fault) c' o' := by
  have hobserved := hpop.observe
  rw [observed_mapError] at hobserved
  have hcomplete : Ends (do Run.setState Mode.roster .browsing
                            Run.observe (Run.popState Mode.roster))
      c.clearState o₁ (.ok popped) c' o' := (ends_setState _).bind hobserved
  have hhidden := hhide.transact hcomplete
  unfold browsingBack
  cases result with
  | ok _ => exact ends_silent.bind (hhidden.bind (ends_accept popped))
  | error i => exact ends_silent.bind hhidden.bind_error

/-! ### Positions -/

/-- In the position `x`, with the transition `name` in flight, the step `r` does what `y`
says. -/
def Takes (r : Step) (name : String) (x : Position) (y : Except Interrupt Unit × Position) :
    Prop :=
  ∀ c, x.Shown c → c.transition = name →
    ∃ c', Ends r c x.owner y.1 c' y.2.owner ∧ y.2.Shown c'

variable {name : String} {stack : List Mode}

/-- A transition does what the handler of the current mode does. -/
theorem takes_issue {transition : String} {handler : Mode → Step} {x : Position}
    {y : Except Interrupt Unit × Position}
    (h : Takes (handler x.mode) transition x y) :
    Takes (Run.issue transition handler) name x y := by
  intro c hc _
  obtain ⟨c', hends, hstate, hstack⟩ := h (c.setTransition transition) hc rfl
  refine ⟨settled y.1 c', hends.issue hc.1, ?_, ?_⟩
  · rw [state?_settled, hstate]
  · rw [stack_settled, hstack]

/-- The default transition of `Main` is ignored. -/
theorem takes_ignore (mode : Mode) :
    Takes (mainDefault mode) name ⟨mode, stack, o⟩ (Position.ignore ⟨mode, stack, o⟩) :=
  fun _ hc _ => ⟨_, ends_mainDefault mode, rfl, hc.2⟩

/-- That of `Menu` is refused. -/
theorem takes_refuse :
    Takes (unhandled .browsing) name ⟨.browsing, stack, o⟩
      (Position.refuse ⟨.browsing, stack, o⟩ name) := by
  rintro c hc rfl
  exact ⟨c, ends_unhandled .browsing, hc⟩

/-- A pop returns to the top of the stack or is refused. -/
theorem takes_pop :
    Takes (Run.popState Mode.roster) name x (x.pop.1.mapError .fault, x.pop.2) := by
  intro c hc _
  unfold Position.pop
  rw [← hc.2]
  cases htop : c.stack.getLast? with
  | none => exact ⟨c, ends_popState_empty htop, hc⟩
  | some mode => exact ⟨_, ends_popState htop, rfl, rfl⟩

/-- **`Stop`.** -/
theorem takes_stop : Takes stop name x x.stop := by
  refine takes_issue fun c hc hname => ?_
  obtain ⟨mode, stack, o⟩ := x
  cases mode with
  | stopped => exact ⟨_, ends_mainStop_stopped, rfl, rfl⟩
  | playing => exact ⟨_, ends_playingStop, rfl, hc.2⟩
  | browsing => exact takes_refuse c hc hname

/-- **`Play`.** -/
theorem takes_play (track : UInt32) : Takes (play track) name x (x.play track) := by
  refine takes_issue fun c hc hname => ?_
  obtain ⟨mode, stack, o⟩ := x
  cases mode with
  | stopped =>
      unfold Position.play
      by_cases htrack : track > 0
      · simp only [if_pos htrack]
        exact ⟨_, ends_stoppedPlay_load htrack, rfl, hc.2⟩
      · simp only [if_neg htrack]
        exact ⟨_, ends_stoppedPlay_reject htrack, rfl, hc.2⟩
  | playing => exact takes_ignore .playing c hc hname
  | browsing => exact takes_refuse c hc hname

/-- **`Menu`.** -/
theorem takes_menu : Takes menu name x x.menu := by
  refine takes_issue fun c hc hname => ?_
  obtain ⟨mode, stack, o⟩ := x
  cases mode with
  | stopped => exact takes_ignore .stopped c hc hname
  | playing =>
      refine ⟨_, ends_playingMenu, rfl, ?_⟩
      simp only [Context.pushState, hc.1, hc.2]
      rfl
  | browsing => exact takes_refuse c hc hname

/-- Whether hiding the menu panics or not, `Browsing` returns. -/
theorem takes_browsingBack :
    Takes (browsingBack .browsing) name ⟨.browsing, stack, o⟩
      (Position.back ⟨.browsing, stack, o⟩) := by
  intro c hc hname
  have hhide := ends_hideMenu (c := c.clearState) (o := o)
  unfold Position.back
  by_cases hjam : o.jamMenu = true
  · simp only [if_pos hjam] at hhide ⊢
    obtain ⟨c', hpop, hshown⟩ :=
      takes_pop (x := ⟨.browsing, stack, o⟩) (c.clearState.setState .browsing) ⟨rfl, hc.2⟩ hname
    exact ⟨c', ends_browsingBack hhide hpop, hshown⟩
  · simp only [if_neg hjam] at hhide ⊢
    obtain ⟨c', hpop, hshown⟩ :=
      takes_pop (x := ⟨.browsing, stack, o.record .hideMenu⟩) (c.clearState.setState .browsing)
        ⟨rfl, hc.2⟩ hname
    exact ⟨c', ends_browsingBack hhide hpop, hshown⟩

/-- **`Back`.** -/
theorem takes_back : Takes back name x x.back := by
  refine takes_issue fun c hc hname => ?_
  obtain ⟨mode, stack, o⟩ := x
  cases mode with
  | stopped => exact takes_ignore .stopped c hc hname
  | playing => exact takes_ignore .playing c hc hname
  | browsing => exact takes_browsingBack c hc hname

/-- `Browsing` returns, and the mode that it returns to is stopped. -/
theorem takes_browsingQuit :
    Takes (browsingQuit .browsing) name ⟨.browsing, stack, o⟩
      (Position.quit ⟨.browsing, stack, o⟩) := by
  intro c hc hname
  obtain ⟨c₁, hpop, hshown⟩ := takes_pop c hc hname
  unfold browsingQuit Position.quit
  simp only
  generalize Position.pop ⟨.browsing, stack, o⟩ = popped at hpop hshown ⊢
  obtain ⟨result, y⟩ := popped
  cases result with
  | ok _ =>
      obtain ⟨c', hstop, hshown'⟩ := takes_stop c₁ hshown rfl
      exact ⟨c', ends_silent.bind (hpop.bind hstop), hshown'⟩
  | error f => exact ⟨c₁, ends_silent.bind hpop.bind_error, hshown⟩

/-- **`Quit`.** -/
theorem takes_quit : Takes quit name x x.quit := by
  refine takes_issue fun c hc hname => ?_
  obtain ⟨mode, stack, o⟩ := x
  cases mode with
  | stopped => exact takes_ignore .stopped c hc hname
  | playing => exact takes_ignore .playing c hc hname
  | browsing => exact takes_browsingQuit c hc hname

/-- **Every event does what the table says.** -/
theorem takes_step (e : Event) : Takes e.run name x (x.step e) := by
  cases e with
  | back => exact takes_back
  | menu => exact takes_menu
  | play track => exact takes_play track
  | quit => exact takes_quit
  | stop => exact takes_stop

/-- The start state is entered once. -/
theorem takes_enterStartState :
    Takes enterStartState name (.start o) (.ok (), (Position.start o).record .stopped) :=
  fun c hc _ => ⟨c, (ends_currentState hc.1).bind (ends_call .stopped), hc⟩

end Controller

end StateMachine.Player
