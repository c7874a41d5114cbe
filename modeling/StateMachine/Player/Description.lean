import StateMachine.Machine.Basic

/-!
# The Description of the Player Machine

The description that `StateMachine.Player.Controller` implements, as a machine:

    %class Player
    %start Main::Stopped
    %map Main
    Stopped  Entry (stopped())
      Play(track: u32) [track > 0] Playing (load(track))
      Play(track: u32) nil (rejected = Some(track))
    Playing  Exit (pause_output())
      Stop Stopped
      Menu push(Menu::Browsing)
    Default
      Stop Stopped (emptyStateStack())
      Default nil (ignored())
    %map Menu
    Browsing  Entry (show_menu())
      Back pop() (hide_menu())
      Quit pop(Stop)
-/

namespace StateMachine.Player.Description

/-- An action without arguments. -/
def plain (name : String) (line : Nat) : Action :=
  { name, line }

/-- A guard that sets the state. -/
def setGuard (condition target : String) (line : Nat) (actions : List Action) : Guard :=
  .make condition (.set (.parse target)) line actions

/-- A guard that pops. -/
def popGuard (transition : Option String) (line : Nat) (actions : List Action) : Guard :=
  .make "" (.pop transition []) line actions

/-- The state `Stopped`. -/
def stopped : State :=
  { className := "Stopped"
    line := 4
    entryActions := [plain "stopped" 4]
    transitions := [
      { name := "Play"
        line := 6
        parameters := [{ name := "track", type := "u32", line := 6 }]
        guards := [
          setGuard "track > 0" "Playing" 6
            [{ name := "load", line := 6, rawArguments := ["track"] }],
          setGuard "" "nil" 7
            [{ name := "rejected", line := 7, rawArguments := ["Some(track)"],
               isProperty := true }]] }] }

/-- The state `Playing`. -/
def playing : State :=
  { className := "Playing"
    line := 9
    exitActions := [plain "pause_output" 9]
    transitions := [
      { name := "Stop", line := 11, guards := [setGuard "" "Stopped" 11 []] },
      { name := "Menu"
        line := 12
        guards := [.make "" (.push .nil (.parse "Menu::Browsing")) 12 []] }] }

/-- The default state of `Main`. -/
def mainDefault : State :=
  { className := "Default"
    line := 14
    transitions := [
      { name := "Stop"
        line := 16
        guards := [setGuard "" "Stopped" 16 [plain "emptyStateStack" 16]] },
      { name := "Default"
        line := 17
        guards := [setGuard "" "nil" 17 [plain "ignored" 17]] }] }

/-- The state `Browsing`. -/
def browsing : State :=
  { className := "Browsing"
    line := 20
    entryActions := [plain "show_menu" 20]
    transitions := [
      { name := "Back", line := 22, guards := [popGuard none 22 [plain "hide_menu" 22]] },
      { name := "Quit", line := 23, guards := [popGuard (some "Stop") 23 []] }] }

/-- The player machine. -/
def machine : Machine :=
  { context := "Player"
    start := some (.parse "Main::Stopped", 2)
    sourceFile := some "player.sm"
    imports := ["super::Player"]
    maps := [
      { name := "Main", line := 3, states := [stopped, playing],
        defaultState := some mainDefault },
      { name := "Menu", line := 19, states := [browsing] }] }

end StateMachine.Player.Description
