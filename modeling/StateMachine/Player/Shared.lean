import StateMachine.Player.Controller

/-!
# The Shared Player

A player machine behind a lock, for callers that each have a player of their own. A call
takes the lock for as long as it runs. A panic in it poisons the lock: from then on taking the
lock answers with an error, and the machine is in the error. All callers recover it from there.
-/

namespace StateMachine.Player

open StateMachine.Execution

/-- A player machine behind a lock. -/
structure Shared where
  inner : Controller := .start
  /-- Whether a call panicked while it held the lock. -/
  poisoned : Bool := false
  deriving DecidableEq, Repr

/-- Whether a run ended in a panic. -/
def panicked : Except Interrupt Unit → Bool
  | .error .panic => true
  | .error (.fault _) | .ok () => false

namespace Shared

/-- What taking the lock answers: the machine, in an error if the lock is poisoned. -/
def acquire (s : Shared) : Except Controller Controller :=
  if s.poisoned then .error s.inner else .ok s.inner

/-- The machine in the answer, error or not. -/
def recover : Except Controller Controller → Controller
  | .ok c => c
  | .error c => c

/-- Puts the machine back behind the lock. A caller that panics poisons it. -/
def release (s : Shared) (c : Controller) (panicking : Bool) : Shared :=
  { inner := c, poisoned := s.poisoned || panicking }

/-- The machine behind the lock, poisoned or not. -/
def lock (s : Shared) : Controller :=
  recover s.acquire

/-- Takes the machine out from behind the lock, poisoned or not. -/
def intoInner (s : Shared) : Controller :=
  recover s.acquire

/-- Runs a step for a caller's player while holding the lock. -/
def run (s : Shared) (owner : Owner) (step : Step) :
    Except Interrupt Unit × Owner × Shared :=
  let (result, after) := step.run.run { session := s.lock, owner }
  (result, after.owner, s.release after.session (panicked result))

end Shared

end StateMachine.Player
