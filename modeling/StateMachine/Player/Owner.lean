/-!
# The Player

A player loads tracks, can be stopped, and shows a menu. It records which of its methods
were called. Its menu can jam: hiding a jammed menu panics.
-/

namespace StateMachine.Player

/-- The methods of a player. -/
inductive Call where
  | stopped
  | load
  | pauseOutput
  | ignored
  | showMenu
  | hideMenu
  deriving DecidableEq, Repr

/-- The name of a method. -/
def Call.name : Call → String
  | .stopped => "stopped"
  | .load => "load"
  | .pauseOutput => "pause_output"
  | .ignored => "ignored"
  | .showMenu => "show_menu"
  | .hideMenu => "hide_menu"

/-- The owner of the player machine. -/
structure Owner where
  /-- The methods called so far, the latest last. -/
  calls : List Call := []
  /-- The track loaded last. -/
  loaded : Option UInt32 := none
  /-- The track rejected last. -/
  rejected : Option UInt32 := none
  /-- Whether hiding the menu panics. -/
  jamMenu : Bool := false
  deriving DecidableEq, Repr

/-- Records a call. -/
def Owner.record (o : Owner) (call : Call) : Owner :=
  { o with calls := o.calls ++ [call] }

end StateMachine.Player
