import StateMachine.Program.Method
import StateMachine.Validation

/-!
# Programs

A program is what is generated for a machine, before it is written out: names, methods,
handlers and dispatchers, as data. Fragments of the description appear in it as they were
read.

`Validated.program` makes the program of a machine. It reports the first text that is not
Rust, in this order: the owner and the start state, the runtime path, imports, states,
methods, handlers, dispatchers, package.

## Conventions

* Every state of the machine is a variant, and every method has an arm for each.
* A handler is named by map, state class and transition; forwards name handlers that way.
* What the options add stands apart from the rest: tracing in statements of its own,
  everything else in the flags of the program.
-/

namespace StateMachine

namespace Program

/-- What a state does on entry, on exit, and with a transition that no other declares. -/
structure Dispatch where
  variant : Variant
  entry : List Command
  exit : List Command
  fallback : Forward

/-- The dispatch of a state. -/
def Dispatch.ofState (map : Map) (state : State) : Emission Dispatch := do
  let variant ← Variant.ofState map state state.line
  let entry ← Command.ofActions state.entryActions
  let exit ← Command.ofActions state.exitActions
  match handlingClass? map state State.defaultTransition with
  | some stateClass =>
    let name ←
      HandlerName.make map.name stateClass State.defaultTransition state.line
    return { variant, entry, exit, fallback := .handler name [] }
  | none => return { variant, entry, exit, fallback := .unhandled }

/-- The parts of a package name, outermost first, blank ones left out. -/
def packageParts (package : String) : List String :=
  let parts := (Text.splitAtColons package.toList).flatMap (Text.splitAtChar '.')
  (parts.map String.ofList).filter fun part => !Text.isBlankText part

/-- The modules of a package, outermost first; they are read from the innermost on. -/
def packageModules (package : Option String) (line : Nat) : Emission (List Rust.Ident) :=
  match package with
  | none => return []
  | some text => do
    let inner ← (packageParts text).reverse.mapM fun part => Emission.name "package" part line
    return inner.reverse

end Program

/-- The program of a machine. -/
structure Program where
  owner : Rust.Ident
  start : Program.Variant
  /-- The path of the runtime library. -/
  runtime : Rust.Fragment
  imports : List Rust.Fragment
  /-- The states of the machine. -/
  variants : List Program.Variant
  methods : List Program.Method
  handlers : List Program.Handler
  dispatch : List Program.Dispatch
  /-- The modules around the program, outermost first. -/
  modules : List Rust.Ident
  /-- Whether there is a snapshot and a restore method. -/
  isSerial : Bool
  /-- Whether there is a wrapper for use from several threads. -/
  isShared : Bool
  /-- Whether an unhandled transition panics. -/
  panics : Bool

open Program in
/-- The program of a validated machine. -/
def Validated.program (v : Validated) (o : OutputOptions) : Emission Program := do
  let m := v.machine
  let owner ← Emission.name "context class" m.context m.startLine
  let start ← Variant.ofState v.startMap v.startState m.startLine
  let runtime ←
    (Rust.Fragment.path "runtime path" o.runtimePath m.startLine).mapError .malformed
  let imports ← m.imports.mapM fun text =>
    (Rust.Fragment.importPath text m.startLine).mapError .malformed
  let variants ← m.states.mapM fun (map, state) => Variant.ofState map state state.line
  let methods ← Method.ofMachine m
  let handlers ← m.maps.mapM (Handler.ofMap m o)
  let dispatch ← m.states.mapM fun (map, state) => Dispatch.ofState map state
  let modules ← packageModules m.package m.startLine
  return {
    owner, start, runtime, imports, variants, methods
    handlers := handlers.flatten
    dispatch, modules
    isSerial := o.serial
    isShared := o.sync
    panics := o.noExceptions }

namespace Program

/-- The conditions of the branches of a handler. -/
def Handler.conditions (h : Handler) : List Rust.Fragment :=
  match h.body with
  | .branches bs _ => bs.filterMap Branch.condition
  | .forward _ => []

/-- Whether the program is Rust as a whole: the runtime path stands in expressions and in
types, and each condition stands before a block. Everything else stands where it was read. -/
def isWellFormed (p : Program) : Bool :=
  p.runtime.pathInExpression?.isSome && p.runtime.pathInType?.isSome &&
    p.handlers.all fun h => h.conditions.all Rust.Fragment.isCondition

end Program

end StateMachine
