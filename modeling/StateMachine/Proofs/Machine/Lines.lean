import StateMachine.Proofs.Machine.Signature
import StateMachine.Proofs.Reachability

/-!
# Machines without Lines

Every part of a machine carries the line that declares it, and every defect the line to blame.
`Machine.eraseLines` puts 0 in place of every line and changes nothing else. Two machines differ
in nothing but lines exactly when they are the same machine without lines.

## Proof strategy

Lines are told from everything else where they stand, and nowhere else: whatever is looked up in
a machine without lines is what is looked up in the machine, without lines. Each look-up has one
lemma that says so. Merging looks at signatures, which have no lines, so the transition that is
kept of several does not depend on where these were declared (`Machine.transitions_eraseLines`).

## Main results

* `Machine.unreachablePlaces_eraseLines`: the search for unreachable states takes the same way.
* `Machine.validate_eraseLines`: **validation** finds out the same, or reports the same defect,
  but for its line.
-/

namespace StateMachine

/-! ### Erasing lines -/

/-- The action without its line. -/
def Action.eraseLines (a : Action) : Action :=
  { a with line := 0 }

/-- The parameter without its line. -/
def Parameter.eraseLines (p : Parameter) : Parameter :=
  { p with line := 0 }

/-- The guard without its line and those of its actions. -/
def Guard.eraseLines (g : Guard) : Guard :=
  { g with
    actions := g.actions.map Action.eraseLines
    line := 0 }

/-- The transition without lines. -/
def Transition.eraseLines (t : Transition) : Transition :=
  { t with
    line := 0
    parameters := t.parameters.map Parameter.eraseLines
    guards := t.guards.map Guard.eraseLines }

/-- The state without lines. -/
def State.eraseLines (s : State) : State :=
  { s with
    line := 0
    entryActions := s.entryActions.map Action.eraseLines
    exitActions := s.exitActions.map Action.eraseLines
    transitions := s.transitions.map Transition.eraseLines }

/-- The map without lines. -/
def Map.eraseLines (m : Map) : Map :=
  { m with
    line := 0
    states := m.states.map State.eraseLines
    defaultState := m.defaultState.map State.eraseLines }

/-- The machine without lines, that of its start state included. -/
def Machine.eraseLines (m : Machine) : Machine :=
  { m with
    start := m.start.map fun (start, _) => (start, 0)
    maps := m.maps.map Map.eraseLines }

/-- The state and its map, without lines. -/
def Location.eraseLines (x : Location) : Location :=
  (x.1.eraseLines, x.2.eraseLines)

/-- What validation found out about a machine, said of the machine without lines. -/
def Validated.eraseLines (v : Validated) : Validated :=
  { v with
    machine := v.machine.eraseLines
    startMap := v.startMap.eraseLines
    startState := v.startState.eraseLines }

/-- The defect without its line. -/
def Defect.eraseLine : Defect → Defect
  | incomplete missing _ => incomplete missing 0
  | duplicateMap map _ => duplicateMap map 0
  | duplicateState map state _ => duplicateState map state 0
  | duplicateDefaultState map _ => duplicateDefaultState map 0
  | duplicateTransition state transition _ => duplicateTransition state transition 0
  | guardAfterUnconditional transition _ => guardAfterUnconditional transition 0
  | unknownStartState start _ => unknownStartState start 0
  | ambiguousStartState start _ => ambiguousStartState start 0
  | unknownState map state _ => unknownState map state 0
  | defaultTarget _ => defaultTarget 0
  | unknownPopTransition transition _ => unknownPopTransition transition 0

/-- Nothing of a defect is lost but its line: what is wrong is the same. -/
@[simp] theorem Defect.reason_eraseLine (d : Defect) : d.eraseLine.reason = d.reason := by
  cases d <;> rfl

/-! ### Transitions -/

namespace Transition

variable (t : Transition)

/-- A transition has the same parameters as written. -/
@[simp] theorem parametersText_eraseLines : t.eraseLines.parametersText = t.parametersText := by
  rw [parametersText, eraseLines, List.map_map]
  rfl

/-- It has an unconditional guard if it has one with lines. -/
@[simp] theorem hasUnconditionalGuard_eraseLines :
    t.eraseLines.hasUnconditionalGuard = t.hasUnconditionalGuard :=
  List.any_map

/-- **Signatures have no lines.** -/
theorem compareSignature_eraseLines (u : Transition) :
    t.eraseLines.compareSignature u.eraseLines = t.compareSignature u := by
  have htypes : ∀ t : Transition, t.eraseLines.parameterTypes = t.parameterTypes := fun t => by
    rw [parameterTypes, eraseLines, List.map_map]
    rfl
  have hlength : ∀ t : Transition, t.eraseLines.parameters.length = t.parameters.length :=
    fun t => List.length_map _
  have hname : ∀ t : Transition, t.eraseLines.name = t.name := fun _ => rfl
  rw [compareSignature, htypes, htypes, hlength, hlength, hname, hname, compareSignature]

end Transition

/-! ### States and maps -/

namespace State

variable (s : State)

/-- The transition of a name, without lines. -/
@[simp] theorem transition?_eraseLines (name : String) :
    s.eraseLines.transition? name = (s.transition? name).map Transition.eraseLines :=
  List.find?_map ..

/-- A state declares what it declares with lines. -/
@[simp] theorem defines_eraseLines (name : String) :
    s.eraseLines.defines name = s.defines name := by
  rw [defines, transition?_eraseLines, Option.isSome_map, defines]

/-- The guards of a state, without lines. -/
@[simp] theorem guards_eraseLines : s.eraseLines.guards = s.guards.map Guard.eraseLines := by
  simp only [guards, eraseLines, List.flatMap_map, List.map_flatMap]
  rfl

end State

namespace Map

variable (m : Map)

/-- The states of a map, without lines. -/
@[simp] theorem allStates_eraseLines :
    m.eraseLines.allStates = m.allStates.map State.eraseLines := by
  simp only [allStates, eraseLines, Option.toList_map, List.map_append]

/-- The state of a name, without lines. -/
@[simp] theorem state?_eraseLines (name : String) :
    m.eraseLines.state? name = (m.state? name).map State.eraseLines :=
  List.find?_map ..

/-- The default state declares what it declares with lines. -/
@[simp] theorem defaultDefines_eraseLines (name : String) :
    m.eraseLines.defaultDefines name = m.defaultDefines name := by
  simp only [defaultDefines, eraseLines, Option.any_map, State.defines_eraseLines]

/-- A map has the default handlers that it has with lines. -/
@[simp] theorem hasDefaultHandler_eraseLines (name : String) :
    m.eraseLines.hasDefaultHandler name = m.hasDefaultHandler name := by
  simp only [hasDefaultHandler, allStates_eraseLines, List.any_map, Function.comp_def,
    State.defines_eraseLines]

/-- The transitions of a map, without lines. -/
@[simp] theorem transitions_eraseLines :
    m.eraseLines.transitions = m.transitions.map Transition.eraseLines := by
  rw [transitions, transitions, map_mergeTransitions Transition.compareSignature_eraseLines,
    allStates_eraseLines, List.flatMap_map, List.map_flatMap]
  rfl

/-- The transitions that are left to derivation, without lines. -/
@[simp] theorem undefinedDefaultTransitions_eraseLines :
    m.eraseLines.undefinedDefaultTransitions =
      m.undefinedDefaultTransitions.map Transition.eraseLines := by
  have hname : ∀ t : Transition, t.eraseLines.name = t.name := fun _ => rfl
  rw [undefinedDefaultTransitions, undefinedDefaultTransitions, firstOfEachName, firstOfEachName,
    map_firstOfNamesBut hname, transitions_eraseLines, List.filter_map]
  simp only [Function.comp_def, defaultDefines_eraseLines, hname]

end Map

/-! ### Looking up in a machine -/

namespace Machine

variable (m : Machine)

/-- The start reference is the same. -/
@[simp] theorem startReference?_eraseLines :
    m.eraseLines.startReference? = m.startReference? := by
  rw [startReference?, eraseLines, Option.map_map]
  rfl

/-- Its line is not. -/
@[simp] theorem startLine_eraseLines : m.eraseLines.startLine = 0 := by
  unfold startLine eraseLines
  cases m.start <;> rfl

/-- The map of a name, without lines. -/
@[simp] theorem map?_eraseLines (name : String) :
    m.eraseLines.map? name = (m.map? name).map Map.eraseLines :=
  List.find?_map ..

/-- The state that a reference means, without lines. -/
@[simp] theorem resolve?_eraseLines (r : Reference) (current : String) :
    m.eraseLines.resolve? r current = (m.resolve? r current).map Location.eraseLines := by
  rw [resolve?, map?_eraseLines, resolve?]
  cases m.map? (r.mapOr current) with
  | none => rfl
  | some map =>
      simp only [Option.map_some, Option.bind_some, Map.state?_eraseLines, Option.map_map]
      rfl

/-- The states of a machine, without lines. -/
@[simp] theorem states_eraseLines : m.eraseLines.states = m.states.map Location.eraseLines := by
  simp only [states, eraseLines, Map.eraseLines, List.flatMap_map, List.map_flatMap, List.map_map]
  rfl

/-- They are at the same places. -/
@[simp] theorem places_eraseLines : m.eraseLines.places = m.places := by
  rw [places, states_eraseLines, List.map_map]
  rfl

/-- **The transitions of a machine**, without lines: of equal ones the same is kept. -/
@[simp] theorem transitions_eraseLines :
    m.eraseLines.transitions = m.transitions.map Transition.eraseLines := by
  rw [transitions, transitions, map_mergeTransitions Transition.compareSignature_eraseLines,
    List.map_flatMap, eraseLines, List.flatMap_map]
  simp only [Map.transitions_eraseLines]

/-! ### Reachable states -/

/-- A guard names the same places. -/
@[simp] theorem guardPlaces_eraseLines (map : Map) (g : Guard) :
    m.eraseLines.guardPlaces map.eraseLines g.eraseLines = m.guardPlaces map g := by
  rw [guardPlaces, guardPlaces]
  refine List.filterMap_congr fun r _ => ?_
  rw [resolve?_eraseLines, Option.map_map]
  rfl

/-- The guards that may be taken in a state, without lines. -/
@[simp] theorem guardsAt_eraseLines (map : Map) (s : State) :
    guardsAt map.eraseLines s.eraseLines = (guardsAt map s).map Guard.eraseLines := by
  simp only [guardsAt, State.guards_eraseLines, Map.eraseLines, Option.toList_map,
    List.flatMap_map, List.map_append, List.map_flatMap]

/-- Places lead to the same places. -/
@[simp] theorem successors_eraseLines : m.eraseLines.successors = m.successors := by
  funext p
  rw [successors, resolve?_eraseLines, successors]
  cases m.resolve? (.qualified p.map p.state) p.map with
  | none => rfl
  | some x =>
      simp only [Option.map_some, Location.eraseLines, guardsAt_eraseLines, List.flatMap_map,
        guardPlaces_eraseLines]

/-- **The same states cannot be reached.** -/
@[simp] theorem unreachablePlaces_eraseLines (start : Place) :
    m.eraseLines.unreachablePlaces start = m.unreachablePlaces start := by
  rw [unreachablePlaces, successors_eraseLines, places_eraseLines, unreachablePlaces]

/-! ### Validation -/

/-- A machine lacks what it lacks with lines. -/
theorem missing?_eraseLines : m.eraseLines.missing? = m.missing? := by
  simp only [missing?, eraseLines, Option.isNone_map, List.isEmpty_map]

/-- The start state, without lines, or the same defect, without its line. -/
theorem resolveStart_eraseLines (start : Reference) :
    m.eraseLines.resolveStart start =
      ((m.resolveStart start).map Location.eraseLines).mapError Defect.eraseLine := by
  have hnamed : m.eraseLines.statesNamed start.state =
      (m.statesNamed start.state).map Location.eraseLines := by
    rw [statesNamed, states_eraseLines, List.filter_map]
    rfl
  rw [resolveStart, resolveStart]
  cases start.map with
  | some map =>
      simp only [resolve?_eraseLines, startLine_eraseLines]
      cases m.resolve? start map <;> rfl
  | none =>
      simp only [hnamed, startLine_eraseLines]
      rcases m.statesNamed start.state with _ | ⟨x, _ | ⟨y, rest⟩⟩ <;> rfl

/-- The same is wrong with a reference, wherever its guard stands. -/
theorem targetDefect?_eraseLines (map : Map) (line : Nat) (r : Reference) :
    m.eraseLines.targetDefect? map.eraseLines 0 r =
      (m.targetDefect? map line r).map Defect.eraseLine := by
  have hresolve : m.eraseLines.resolve? r map.eraseLines.name =
      (m.resolve? r map.name).map Location.eraseLines := m.resolve?_eraseLines r map.name
  rw [targetDefect?, targetDefect?, hresolve, Option.isSome_map]
  split_ifs <;> rfl

/-- A pop can issue the same transitions. -/
theorem issuableNames_eraseLines : m.eraseLines.issuableNames = m.issuableNames := by
  rw [issuableNames, transitions_eraseLines, List.map_map]
  rfl

/-- The same is wrong with a transition that is popped to, wherever its guard stands. -/
theorem popDefect?_eraseLine (issuable : List String) (line : Nat) (transition : String) :
    popDefect? issuable 0 transition =
      (popDefect? issuable line transition).map Defect.eraseLine := by
  rw [popDefect?, popDefect?]
  split_ifs <;> rfl

/-- The same is wrong with a guard. -/
theorem guardDefects_eraseLines (issuable : List String) (map : Map) (g : Guard) :
    m.eraseLines.guardDefects issuable map.eraseLines g.eraseLines =
      (m.guardDefects issuable map g).map Defect.eraseLine := by
  have htargets : m.eraseLines.targetDefect? map.eraseLines 0 =
      fun r => (m.targetDefect? map g.line r).map Defect.eraseLine :=
    funext fun r => m.targetDefect?_eraseLines map g.line r
  have hpops : popDefect? issuable 0 =
      fun name => (popDefect? issuable g.line name).map Defect.eraseLine :=
    funext fun name => popDefect?_eraseLine issuable g.line name
  rw [guardDefects, guardDefects, List.map_append, List.map_filterMap, List.map_filterMap,
    ← htargets, ← hpops]
  rfl

/-- The same is wrong with all guards, in the same order. -/
theorem allGuardDefects_eraseLines :
    m.eraseLines.allGuardDefects = m.allGuardDefects.map Defect.eraseLine := by
  have hmaps : m.eraseLines.maps = m.maps.map Map.eraseLines := rfl
  simp only [allGuardDefects, issuableNames_eraseLines, hmaps, List.flatMap_map, List.map_flatMap,
    Map.allStates_eraseLines, State.guards_eraseLines, guardDefects_eraseLines]

/-- **Validation looks at lines only to report them.** -/
theorem validate_eraseLines :
    m.eraseLines.validate =
      (m.validate.map Validated.eraseLines).mapError Defect.eraseLine := by
  rw [validate, missing?_eraseLines, startReference?_eraseLines, startLine_eraseLines, validate]
  cases m.missing? with
  | some part => rfl
  | none =>
      cases m.startReference? with
      | none => rfl
      | some start =>
          simp only [resolveStart_eraseLines, allGuardDefects_eraseLines]
          cases m.resolveStart start with
          | error defect => rfl
          | ok found =>
              cases m.allGuardDefects with
              | cons defect rest => rfl
              | nil =>
                  have hplaces := m.unreachablePlaces_eraseLines (.ofState found.1 found.2)
                  exact congrArg (fun places => Except.ok (Validated.mk m.eraseLines
                    found.1.eraseLines found.2.eraseLines places)) hplaces

end Machine

end StateMachine
