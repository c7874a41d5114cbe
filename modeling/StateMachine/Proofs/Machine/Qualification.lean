import StateMachine.Proofs.Construction
import StateMachine.Proofs.Machine.Signature
import StateMachine.Proofs.Reachability

/-!
# Qualified Machines

A guard may name a state of its own map without the map. `Machine.qualify` writes the map in
front wherever a guard does so, and changes nothing else: not the start reference, not the names,
not the lines. A machine that was put together step by step can also be put together with its
targets qualified.

## Proof strategy

Whatever is looked up in the qualified machine is what is looked up in the machine, qualified.
Each look-up has a lemma that moves `qualify` from the machine to the result. The transitions of a
machine come from several maps, and so do not have one map to be qualified with. But a merge looks
at signatures only, and these do not have guards (`Transition.heading`).

## Main results

* `Machine.Built.qualify`: a qualified machine can be put together.
* `Machine.resolve?_qualify`, `Machine.resolve?_qualify_reference`: a reference means the same state
  in both machines, whether it is qualified or not.
* `Machine.map_heading_transitions_qualify`: both machines have the same transitions, but for
  their guards.
-/

namespace StateMachine

/-! ### Qualifying -/

/-- The reference with the map that it means when it stands in the map `current`. -/
def Reference.qualify (current : String) (r : Reference) : Reference :=
  .qualified (r.mapOr current) r.state

/-- A named end state is named with its map. -/
def EndState.qualify (current : String) : EndState → EndState
  | .nil => .nil
  | .named target => .named (target.qualify current)

/-- The states that a transfer names are named with their maps. -/
def Transfer.qualify (current : String) : Transfer → Transfer
  | .set target => .set (target.qualify current)
  | .push target pushed => .push (target.qualify current) (pushed.qualify current)
  | .pop transition arguments => .pop transition arguments

/-- The guard with a qualified transfer. -/
def Guard.qualify (current : String) (g : Guard) : Guard :=
  { g with transfer := g.transfer.qualify current }

/-- The transition with qualified guards. -/
def Transition.qualify (current : String) (t : Transition) : Transition :=
  { t with guards := t.guards.map (Guard.qualify current) }

/-- The state with qualified guards. -/
def State.qualify (current : String) (s : State) : State :=
  { s with transitions := s.transitions.map (Transition.qualify current) }

/-- The map with the guards of its states qualified by its own name. -/
def Map.qualify (m : Map) : Map :=
  { m with
    states := m.states.map (State.qualify m.name)
    defaultState := m.defaultState.map (State.qualify m.name) }

/-- The machine with the guards of each map qualified. -/
def Machine.qualify (m : Machine) : Machine :=
  { m with maps := m.maps.map Map.qualify }

/-- The state and its map, qualified. -/
def Location.qualify (x : Location) : Location :=
  (x.1.qualify, x.2.qualify x.1.name)

/-! ### Guards -/

namespace Guard

variable (current : String) (g : Guard)

/-- The end state of a qualified guard is that of the guard, with its map. -/
theorem endReference?_qualify :
    (g.qualify current).endReference? = g.endReference?.map (Reference.qualify current) := by
  obtain ⟨condition, transfer, actions, line⟩ := g
  cases transfer with
  | set target => cases target <;> rfl
  | push target pushed => cases target <;> rfl
  | pop transition arguments => rfl

/-- So is the pushed state. -/
theorem pushed?_qualify :
    (g.qualify current).pushed? = g.pushed?.map (Reference.qualify current) := by
  obtain ⟨condition, transfer, actions, line⟩ := g
  cases transfer <;> rfl

/-- What a pop issues is not qualified. -/
theorem popTransition?_qualify : (g.qualify current).popTransition? = g.popTransition? := by
  obtain ⟨condition, transfer, actions, line⟩ := g
  cases transfer <;> rfl

/-- **A qualified guard names the same states, with their maps.** -/
theorem references_qualify :
    (g.qualify current).references = g.references.map (Reference.qualify current) := by
  simp only [references, endReference?_qualify, pushed?_qualify, Option.toList_map,
    List.map_append]

/-- Every state that a qualified guard names is named with a map. -/
theorem isSome_map_of_mem_references_qualify {r : Reference}
    (h : r ∈ (g.qualify current).references) : r.map.isSome := by
  rw [references_qualify] at h
  obtain ⟨r, -, rfl⟩ := List.mem_map.mp h
  rfl

end Guard

/-! ### Transitions, states and maps -/

/-- A qualified transition has an unconditional guard if the transition has one. -/
theorem Transition.hasUnconditionalGuard_qualify (current : String) (t : Transition) :
    (t.qualify current).hasUnconditionalGuard = t.hasUnconditionalGuard :=
  List.any_map

/-- So it accepts a guard if the transition does. -/
theorem Transition.addGuard_qualify {t t' : Transition} {g : Guard} (h : t.addGuard g = .ok t')
    (current : String) :
    (t.qualify current).addGuard (g.qualify current) = .ok (t'.qualify current) := by
  obtain ⟨hnone, rfl⟩ := addGuard_eq_ok_iff.mp h
  refine addGuard_eq_ok_iff.mpr ⟨?_, ?_⟩
  · rw [hasUnconditionalGuard_qualify, hnone]
  · simp only [qualify, List.map_append, List.map_cons, List.map_nil]

namespace State

variable (current : String) (s : State)

/-- The transition of a name is qualified with its state. -/
theorem transition?_qualify (name : String) :
    (s.qualify current).transition? name =
      (s.transition? name).map (Transition.qualify current) :=
  List.find?_map ..

/-- A qualified state declares what the state declares. -/
theorem defines_qualify (name : String) :
    (s.qualify current).defines name = s.defines name := by
  rw [defines, transition?_qualify, Option.isSome_map, defines]

/-- The guards of a qualified state are those of the state, qualified. -/
theorem guards_qualify : (s.qualify current).guards = s.guards.map (Guard.qualify current) := by
  simp only [guards, qualify, List.flatMap_map, List.map_flatMap]
  rfl

/-- A transition can be replaced before or after. -/
theorem map_qualify_replaceTransition (name : String) (new : Transition) (ts : List Transition) :
    (replaceTransition name new ts).map (Transition.qualify current) =
      replaceTransition name (new.qualify current) (ts.map (Transition.qualify current)) := by
  induction ts with
  | nil => rfl
  | cons t rest ih =>
      have hname : (t.qualify current).name = t.name := rfl
      rw [List.map_cons, replaceTransition, replaceTransition, hname, apply_ite (List.map _),
        List.map_cons, List.map_cons, ih]

end State

namespace Map

variable (m : Map)

/-- The states of a qualified map are those of the map, qualified. -/
theorem allStates_qualify : m.qualify.allStates = m.allStates.map (State.qualify m.name) := by
  simp only [allStates, qualify, Option.toList_map, List.map_append]

/-- So is the state of a name. -/
theorem state?_qualify (name : String) :
    m.qualify.state? name = (m.state? name).map (State.qualify m.name) :=
  List.find?_map ..

/-- The default state of a qualified map declares what it declares in the map. -/
theorem defaultDefines_qualify (name : String) :
    m.qualify.defaultDefines name = m.defaultDefines name := by
  simp only [defaultDefines, qualify, Option.any_map, State.defines_qualify]

/-- A qualified map has the default handlers that the map has. -/
theorem hasDefaultHandler_qualify (name : String) :
    m.qualify.hasDefaultHandler name = m.hasDefaultHandler name := by
  simp only [hasDefaultHandler, allStates_qualify, List.any_map, Function.comp_def,
    State.defines_qualify]

/-- The transitions of a qualified map are those of the map, qualified. -/
theorem transitions_qualify :
    m.qualify.transitions = m.transitions.map (Transition.qualify m.name) := by
  have hsame : ∀ a b : Transition,
      (a.qualify m.name).compareSignature (b.qualify m.name) = a.compareSignature b :=
    fun _ _ => rfl
  rw [transitions, transitions, map_mergeTransitions hsame, allStates_qualify, List.flatMap_map,
    List.map_flatMap]
  rfl

/-- So are those that are left to derivation. -/
theorem undefinedDefaultTransitions_qualify :
    m.qualify.undefinedDefaultTransitions =
      m.undefinedDefaultTransitions.map (Transition.qualify m.name) := by
  have hname : ∀ t : Transition, (t.qualify m.name).name = t.name := fun _ => rfl
  rw [undefinedDefaultTransitions, undefinedDefaultTransitions, firstOfEachName, firstOfEachName,
    map_firstOfNamesBut hname, transitions_qualify, List.filter_map]
  simp only [Function.comp_def, defaultDefines_qualify, hname]

end Map

/-! ### Qualified machines are put together -/

/-- A qualified guard can be made. -/
theorem Guard.Built.qualify {g : Guard} (h : g.Built) (current : String) :
    (g.qualify current).Built := by
  obtain ⟨condition, transfer, line, actions⟩ := h
  exact .make condition (transfer.qualify current) line actions

/-- A qualified transition can be put together. -/
theorem Transition.Built.qualify {t : Transition} (h : t.Built) (current : String) :
    (t.qualify current).Built := by
  induction h with
  | new name line => exact .new name line
  | withParameters parameters _ ih => exact .withParameters parameters ih
  | addGuard _ hg hadd ih =>
      exact .addGuard ih (hg.qualify current) (addGuard_qualify hadd current)

/-- So can a qualified state. -/
theorem State.Built.qualify {s : State} (h : s.Built) (current : String) :
    (s.qualify current).Built := by
  induction h with
  | new className line => exact .new className line
  | addEntryAction action _ ih => exact .addEntryAction action ih
  | addExitAction action _ ih => exact .addExitAction action ih
  | @addTransition s s' t _ ht hadd ih =>
      obtain ⟨hnew, rfl⟩ := addTransition_eq_ok_iff.mp hadd
      refine .addTransition ih (ht.qualify current) (addTransition_eq_ok_iff.mpr ⟨?_, ?_⟩)
      · exact (defines_qualify current s t.name).trans hnew
      · simp only [State.qualify, List.map_append, List.map_cons, List.map_nil]
  | @extendTransition s s' name g _ hg hextend ih =>
      obtain ⟨t, t', hfind, hadd, rfl⟩ := extendTransition_eq_ok_iff.mp hextend
      have hfind' : (s.qualify current).transition? name = some (t.qualify current) := by
        rw [transition?_qualify, hfind, Option.map_some]
      refine .extendTransition ih (hg.qualify current) (extendTransition_eq_ok_iff.mpr
        ⟨_, _, hfind', Transition.addGuard_qualify hadd current, ?_⟩)
      simp only [State.qualify, map_qualify_replaceTransition]

/-- So can a qualified map. -/
theorem Map.Built.qualify {m : Map} (h : m.Built) : m.qualify.Built := by
  induction h with
  | new name line => exact .new name line
  | @addState m m' s _ hs hadd ih =>
      refine .addState ih (hs.qualify m.name) (addState_eq_ok_iff.mpr ?_)
      rcases addState_eq_ok_iff.mp hadd with ⟨hdefault, hslot, rfl⟩ | ⟨hordinary, hnew, rfl⟩
      · refine .inl ⟨hdefault, ?_, rfl⟩
        simp only [Map.qualify, hslot, Option.map_none]
      · refine .inr ⟨hordinary, ?_, ?_⟩
        · rw [isKnownState, state?_qualify, Option.isSome_map]
          exact hnew
        · simp only [Map.qualify, List.map_append, List.map_cons, List.map_nil]

namespace Machine

/-- The map of a name is qualified with its machine. -/
theorem map?_qualify (m : Machine) (name : String) :
    m.qualify.map? name = (m.map? name).map Map.qualify :=
  List.find?_map ..

/-- **A qualified machine can be put together** if the machine can. -/
theorem Built.qualify {m : Machine} (h : m.Built) : m.qualify.Built := by
  induction h with
  | new context => exact .new context
  | @addMap m m' map _ hmap hadd ih =>
      obtain ⟨hnew, rfl⟩ := addMap_eq_ok_iff.mp hadd
      refine .addMap ih hmap.qualify (addMap_eq_ok_iff.mpr ⟨?_, ?_⟩)
      · have hname : map.qualify.name = map.name := rfl
        rw [hname, map?_qualify, Option.isSome_map, hnew]
      · simp only [Machine.qualify, List.map_append, List.map_cons, List.map_nil]
  | setStart name line _ ih => exact .setStart name line ih
  | declare package source sourceFile header imports includes declarations _ ih =>
      exact .declare package source sourceFile header imports includes declarations ih

/-! ### Looking up in a qualified machine -/

variable (m : Machine)

/-- The states of a qualified machine are those of the machine, qualified. -/
theorem states_qualify : m.qualify.states = m.states.map Location.qualify := by
  simp only [states, qualify, Map.qualify, List.flatMap_map, List.map_flatMap, List.map_map]
  rfl

/-- They are at the same places. -/
theorem places_qualify : m.qualify.places = m.places := by
  rw [places, states_qualify, List.map_map]
  rfl

/-- A reference means the same state, qualified. -/
theorem resolve?_qualify (r : Reference) (current : String) :
    m.qualify.resolve? r current = (m.resolve? r current).map Location.qualify := by
  rw [resolve?, map?_qualify, resolve?]
  cases m.map? (r.mapOr current) with
  | none => rfl
  | some map =>
      simp only [Option.map_some, Option.bind_some, Map.state?_qualify, Option.map_map]
      rfl

/-- **A qualified reference means the same state** where it stands in a qualified map. -/
theorem resolve?_qualify_reference (map : Map) (r : Reference) :
    m.qualify.resolve? (r.qualify map.name) map.qualify.name =
      (m.resolve? r map.name).map Location.qualify :=
  m.resolve?_qualify r map.name

/-- **Every state that a guard of a qualified machine names** is named with a map. -/
theorem isSome_map_of_mem_qualify {map : Map} (hmap : map ∈ m.qualify.maps) {s : State}
    (hs : s ∈ map.allStates) {g : Guard} (hg : g ∈ s.guards) {r : Reference}
    (hr : r ∈ g.references) : r.map.isSome := by
  obtain ⟨map, -, rfl⟩ := List.mem_map.mp hmap
  rw [Map.allStates_qualify] at hs
  obtain ⟨s, -, rfl⟩ := List.mem_map.mp hs
  rw [State.guards_qualify] at hg
  obtain ⟨g, -, rfl⟩ := List.mem_map.mp hg
  exact Guard.isSome_map_of_mem_references_qualify map.name g hr

end Machine

/-! ### The transitions of a qualified machine -/

/-- A transition without its guards. -/
def Transition.heading (t : Transition) : Transition :=
  { t with guards := [] }

/-- **Both machines have the same transitions**, but for their guards. -/
theorem Machine.map_heading_transitions_qualify (m : Machine) :
    m.qualify.transitions.map Transition.heading = m.transitions.map Transition.heading := by
  have hsame : ∀ a b : Transition,
      a.heading.compareSignature b.heading = a.compareSignature b := fun _ _ => rfl
  rw [transitions, transitions, map_mergeTransitions hsame, map_mergeTransitions hsame,
    List.map_flatMap, List.map_flatMap]
  simp only [qualify, List.flatMap_map, Map.transitions_qualify, List.map_map]
  rfl

end StateMachine
