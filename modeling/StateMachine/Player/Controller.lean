import StateMachine.Execution.Run
import StateMachine.Player.Owner

/-!
# The Player's Controller

The machine that drives a player. It has two maps: `Main` with the states `Stopped` and
`Playing` and a default state, and `Menu` with the state `Browsing`. Each map has a handler
for every transition that its states can be issued; handlers that its default state does
not declare fall back to the `Default` transition, which `Main` ignores and `Menu` refuses.

A public transition (`back`, `menu`, `play`, `quit`, `stop`) is issued in the current
state.
-/

namespace StateMachine.Player

open StateMachine.Execution

/-- The states of the player machine, each in its map. -/
inductive Mode where
  | stopped
  | playing
  | browsing
  deriving DecidableEq, Repr

namespace Mode

/-- All states, by number. -/
def all : List Mode :=
  [stopped, playing, browsing]

/-- The name of a state, with its map. -/
def name : Mode → String
  | stopped => "Main.Stopped"
  | playing => "Main.Playing"
  | browsing => "Menu.Browsing"

/-- The number of a state. -/
def id : Mode → Nat
  | stopped => 0
  | playing => 1
  | browsing => 2

/-- The names and numbers of the player's states. -/
def roster : Roster Mode :=
  { name, id, ofId? := fun n => all[n]? }

end Mode

/-- A run of the player machine. -/
abbrev Step := Run Mode Owner Unit

/-- The player machine between transitions. -/
abbrev Controller := Session Mode

/-- The player machine in its start state. -/
def Controller.start : Controller :=
  { context := .start .stopped }

namespace Controller

/-! ### Calls on the owner -/

/-- Calls a method that only records the call. -/
def call (c : Call) : Step :=
  Run.onOwner (·.record c)

/-- Loads a track. -/
def load (track : UInt32) : Step :=
  Run.onOwner fun o => ({ o with loaded := some track }).record .load

/-- Notes a rejected track. -/
def reject (track : UInt32) : Step :=
  Run.onOwner fun o => { o with rejected := some track }

/-- Hides the menu; panics if it is jammed. -/
def hideMenu : Step := do
  if (← get).owner.jamMenu then throw .panic else call .hideMenu

/-! ### Entry, exit and fallbacks -/

/-- The entry actions of a state. -/
def onEntry : Mode → Step
  | .stopped => call .stopped
  | .browsing => call .showMenu
  | .playing => pure ()

/-- The exit actions of a state. -/
def onExit : Mode → Step
  | .playing => call .pauseOutput
  | .stopped | .browsing => pure ()

/-- Refuses the transition in flight. -/
def unhandled (s : Mode) : Step := do
  throw (.fault (.undefined s.name (← get).session.context.transition))

/-- `Main`'s `Default` transition: the player ignores the transition and stays. -/
def mainDefault (s : Mode) : Step :=
  Run.transact (call .ignored) (Run.setState Mode.roster s)

/-- The `Default` transition of the state's map. -/
def defaultTransition : Mode → Step
  | .stopped => mainDefault .stopped
  | .playing => mainDefault .playing
  | .browsing => unhandled .browsing

/-! ### Handlers -/

/-- `Main`'s default `Stop`: empties the stack and goes to `Stopped`, with exit and entry
only if the machine is not there. -/
def mainStop (s : Mode) : Step := do
  if s ≠ .stopped then onExit s
  Run.transact Run.emptyStack do
    Run.setState Mode.roster .stopped
    if s ≠ .stopped then onEntry .stopped

/-- `Stopped`'s `Play`: loads a track other than 0 and plays it, and rejects track 0. -/
def stoppedPlay (s : Mode) (track : UInt32) : Step := do
  if track > 0 then
    onExit s
    Run.transact (load track) do
      Run.setState Mode.roster .playing
      onEntry .playing
  else
    Run.transact (reject track) (Run.setState Mode.roster s)

/-- `Playing`'s `Stop`. -/
def playingStop (s : Mode) : Step := do
  onExit s
  Run.setState Mode.roster .stopped
  onEntry .stopped

/-- `Playing`'s `Menu`: shows the menu, to return later. -/
def playingMenu (_ : Mode) : Step := do
  Run.pushState Mode.roster .browsing
  onEntry .browsing

/-- `Browsing`'s `Back`: hides the menu and returns, even when hiding panics. -/
def browsingBack (s : Mode) : Step := do
  onExit s
  let popped ← Run.transact hideMenu do
    Run.setState Mode.roster s
    Run.observe (Run.popState Mode.roster)
  Run.accept popped

/-! ### Public transitions -/

/-- Issues `Stop`. -/
def stop : Step :=
  Run.issue "Stop" fun
    | .stopped => mainStop .stopped
    | .playing => playingStop .playing
    | .browsing => defaultTransition .browsing

/-- `Browsing`'s `Quit`: returns and stops there. -/
def browsingQuit (s : Mode) : Step := do
  onExit s
  Run.popState Mode.roster
  stop

/-- Issues `Back`. -/
def back : Step :=
  Run.issue "Back" fun
    | .browsing => browsingBack .browsing
    | s => defaultTransition s

/-- Issues `Menu`. -/
def menu : Step :=
  Run.issue "Menu" fun
    | .playing => playingMenu .playing
    | s => defaultTransition s

/-- Issues `Play` with a track. -/
def play (track : UInt32) : Step :=
  Run.issue "Play" fun
    | .stopped => stoppedPlay .stopped track
    | s => defaultTransition s

/-- Issues `Quit`. -/
def quit : Step :=
  Run.issue "Quit" fun
    | .browsing => browsingQuit .browsing
    | s => defaultTransition s

/-- Runs the entry actions of the current state. -/
def enterStartState : Step := do
  onEntry (← Run.currentState)

/-- The public transitions of the player. -/
inductive Event where
  | back
  | menu
  | play (track : UInt32)
  | quit
  | stop
  deriving DecidableEq, Repr

/-- What an event makes the machine do. -/
def Event.run : Event → Step
  | .back => Controller.back
  | .menu => Controller.menu
  | .play track => Controller.play track
  | .quit => Controller.quit
  | .stop => Controller.stop

end Controller

end StateMachine.Player
