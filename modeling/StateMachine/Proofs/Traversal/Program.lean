import StateMachine.Program.Basic
import StateMachine.Proofs.Traversal.Visit

/-!
# Generating a Program Node by Node

`Validated.program` makes the branch of a guard for the map, the state and the transition that it
is called with. Here the branch is made by a visit of the guard that takes all three from its
cursor, and the cursor comes down from the machine. Every cursor has been where it is asked for,
so the visits make the same program, and they fail for nothing else.

## Main results

* `Program.meets_visitGuard`: at its own place, a guard gets its own branch.
* `Validated.meets_visitProgram`: the visits of a machine make its program. They come to the guards
  in the order of the handlers, and as far as the handlers come.
-/

namespace StateMachine

open Visit

namespace Program

variable (o : OutputOptions)

/-! ### Visits -/

/-- Makes the branch of a guard, for the map, the state and the transition that the cursor is in. -/
def visitGuard (c : Cursor) (g : Guard) : Visit Branch := do
  note c g
  -- the first guard of its transition comes without an `else` in front
  let _ ← ask c.guard
  let map ← ask c.map
  let s ← ask c.state
  let t ← ask c.transition
  emit (Branch.ofGuard c.machine o map s t g)

/-- Makes the handler of a transition, for the map and the state that the cursor is in. -/
def visitTransition (c : Cursor) (t : Transition) : Visit Handler := do
  let map ← ask c.map
  let s ← ask c.state
  let name ← emit (HandlerName.make map.name s.className t.name t.line)
  let parameters ← emit (Binding.ofTransition t)
  let branches ← guards c (visitGuard o)
  let otherwise ←
    if t.hasUnconditionalGuard then pure none
    else emit (some <$> Forward.ofState map s t (parameters.map Binding.name))
  return { name, parameters, body := .branches branches otherwise }

/-- Makes the handlers of a state. -/
def visitState (c : Cursor) (s : State) : Visit (List Handler) :=
  s.transitions.mapM fun t => visitTransition o (c.enterTransition t) t

/-- Makes the handlers of a map. -/
def visitMap (c : Cursor) (map : Map) : Visit (List Handler) := do
  let declared ← map.defaultState.toList.mapM fun s => visitState o (c.enterState s) s
  let derived ← emit (map.undefinedDefaultTransitions.mapM (Handler.forwarding map))
  let ordinary ← map.states.mapM fun s => visitState o (c.enterState s) s
  return declared.flatten ++ derived ++ ordinary.flatten

end Program

open Program in
/-- Makes the program of a validated machine. -/
def Validated.visitProgram (v : Validated) (o : OutputOptions) : Visit Program := do
  let m := v.machine
  let c := Cursor.root m
  let owner ← emit (Emission.name "context class" m.context m.startLine)
  let start ← emit (Variant.ofState v.startMap v.startState m.startLine)
  let runtime ←
    emit ((Rust.Fragment.path "runtime path" o.runtimePath m.startLine).mapError .malformed)
  let imports ← emit (m.imports.mapM fun text =>
    (Rust.Fragment.importPath text m.startLine).mapError .malformed)
  let variants ← emit (m.states.mapM fun (map, state) => Variant.ofState map state state.line)
  let methods ← emit (Method.ofMachine m)
  let handlers ← m.maps.mapM fun map => Program.visitMap o (c.enterMap map) map
  let dispatch ← emit (m.states.mapM fun (map, state) => Dispatch.ofState map state)
  let modules ← emit (packageModules m.package m.startLine)
  return {
    owner, start, runtime, imports, variants, methods
    handlers := handlers.flatten
    dispatch, modules
    isSerial := o.serial
    isShared := o.sync
    panics := o.noExceptions }

namespace Program

variable (o : OutputOptions) (m : Machine) (map : Map) (s : State) (t : Transition)

/-! ### What is made and which guards are visited -/

/-- **A guard gets the branch of the place that it is visited at.** -/
theorem meets_visitGuard (i : Nat) (g : Guard) :
    Meets (visitGuard o (.atGuard m map s t i) g) (Branch.ofGuard m o map s t g)
      [⟨.atGuard m map s t i, g⟩] :=
  (Meets.note _ _).bind_ok <| (Meets.ask rfl).bind_ok <| (Meets.ask rfl).bind_ok <|
    (Meets.ask rfl).bind_ok <| (Meets.ask rfl).bind_ok (.emit _)

/-- A transition gets its handler, and its guards are visited for the branches. -/
theorem meets_visitTransition :
    Meets (visitTransition o (.atTransition m map s t) t) (Handler.ofTransition m o map s t)
      (t.guardVisits m map s) := by
  unfold visitTransition Handler.ofTransition
  refine (Meets.ask rfl).bind_ok <| (Meets.ask rfl).bind_ok <| .emit_bind fun name _ =>
    .emit_bind fun parameters _ => (Meets.guards (meets_visitGuard o m map s t)).bind_silent
      fun branches _ => ?_
  split
  · exact .pure _
  · exact .emit_bind fun f _ => .pure _

/-- A state gets its handlers. -/
theorem meets_visitState :
    Meets (visitState o (((Cursor.root m).enterMap map).enterState s) s)
      (Handler.ofState m o map s) (s.guardVisits m map) :=
  .mapM fun t _ => meets_visitTransition o m map s t

/-- A map gets its handlers. For those that are derived no guard is visited. -/
theorem meets_visitMap :
    Meets (visitMap o ((Cursor.root m).enterMap map) map) (Handler.ofMap m o map)
      (map.guardVisits m) := by
  rw [Map.guardVisits, Map.allStates, List.flatMap_append]
  unfold visitMap Handler.ofMap
  exact (Meets.mapM fun s _ => meets_visitState o m map s).bind fun declared _ =>
    .emit_bind fun derived _ =>
      (Meets.mapM fun s _ => meets_visitState o m map s).bind_silent fun ordinary _ => .pure _

end Program

/-- **The visits of a machine make its program.** What is computed before the handlers, or after
them, comes to no guard. -/
theorem Validated.meets_visitProgram (v : Validated) (o : OutputOptions) :
    Meets (v.visitProgram o) (v.program o) v.machine.guardVisits := by
  unfold visitProgram program
  exact .emit_bind fun owner _ => .emit_bind fun start _ => .emit_bind fun runtime _ =>
    .emit_bind fun imports _ => .emit_bind fun variants _ => .emit_bind fun methods _ =>
      (Meets.mapM fun map _ => Program.meets_visitMap o v.machine map).bind_silent
        fun handlers _ => .emit_bind fun dispatch _ => .emit_bind fun modules _ => .pure _

end StateMachine
