import Mathlib.Data.List.Nodup
import StateMachine.Machine.Basic

/-!
# Machines Put Together Step by Step

A machine is put together from the bottom up: guards go into transitions, transitions into
states, states into maps, and maps into the machine. Each step may be refused, and what was
put together so far can be extended again. `Machine.Built` says that a machine came about in
this way, and `Machine.WellFormed` collects what the refusals are for.

## Main results

* `Machine.Built.wellFormed`: a machine that was put together is **well formed**: the names
  of its maps are distinct, those of the ordinary states of a map, and those of the
  transitions of a state; the default states stand apart; and no guard stands behind an
  unconditional one.

## Conventions

What no step examines is not restricted: actions, parameters and transfers are arbitrary,
and the declarations of a machine can be replaced at any time.
-/

namespace StateMachine

/-! ### Histories -/

/-- A guard whose condition was given as text. -/
inductive Guard.Built : Guard → Prop
  | make (condition : String) (transfer : Transfer) (line : Nat) (actions : List Action) :
      Built (Guard.make condition transfer line actions)

/-- A transition that was given parameters and guards one after the other. -/
inductive Transition.Built : Transition → Prop
  | new (name : String) (line : Nat) : Built { name, line }
  | withParameters {t : Transition} (parameters : List Parameter) :
      Built t → Built (t.withParameters parameters)
  | addGuard {t t' : Transition} {g : Guard} :
      Built t → g.Built → t.addGuard g = .ok t' → Built t'

/-- A state that was given actions and transitions one after the other. A transition can be
extended where it stands. -/
inductive State.Built : State → Prop
  | new (className : String) (line : Nat) : Built { className, line }
  | addEntryAction {s : State} (action : Action) : Built s → Built (s.addEntryAction action)
  | addExitAction {s : State} (action : Action) : Built s → Built (s.addExitAction action)
  | addTransition {s s' : State} {t : Transition} :
      Built s → t.Built → s.addTransition t = .ok s' → Built s'
  | extendTransition {s s' : State} {name : String} {g : Guard} :
      Built s → g.Built → s.extendTransition name g = some (.ok s') → Built s'

/-- A map that was given states one after the other. -/
inductive Map.Built : Map → Prop
  | new (name : String) (line : Nat) : Built { name, line }
  | addState {m m' : Map} {s : State} :
      Built m → s.Built → m.addState s = .ok m' → Built m'

/-- A machine that was given maps one after the other, a start state and declarations. -/
inductive Machine.Built : Machine → Prop
  | new (context : String) : Built { context }
  | addMap {m m' : Machine} {map : Map} :
      Built m → map.Built → m.addMap map = .ok m' → Built m'
  | setStart {m : Machine} (name : String) (line : Nat) : Built m → Built (m.setStart name line)
  | declare {m : Machine} (package source sourceFile header : Option String)
      (imports includes declarations : List String) :
      Built m → Built { m with
        package, source, sourceFile, header, imports, includes, declarations }

/-! ### Well-formedness -/

/-- No guard stands behind an unconditional one, which is one without a condition. -/
structure Transition.WellFormed (t : Transition) : Prop where
  condition_ne : ∀ g ∈ t.guards.dropLast, g.condition ≠ ""

/-- The transitions have distinct names. -/
structure State.WellFormed (s : State) : Prop where
  names_nodup : (s.transitions.map Transition.name).Nodup
  transitions : ∀ t ∈ s.transitions, t.WellFormed

/-- The ordinary states have distinct names, and the default state, which has the reserved
name, is none of them. -/
structure Map.WellFormed (m : Map) : Prop where
  classNames_nodup : (m.states.map State.className).Nodup
  className_ne : ∀ s ∈ m.states, s.className ≠ "Default"
  className_eq : ∀ s ∈ m.defaultState, s.className = "Default"
  states : ∀ s ∈ m.allStates, s.WellFormed

/-- The maps have distinct names. -/
structure Machine.WellFormed (m : Machine) : Prop where
  names_nodup : (m.maps.map Map.name).Nodup
  maps : ∀ map ∈ m.maps, map.WellFormed

/-! ### Transitions -/

/-- The guard without a condition is the unconditional one. -/
theorem Transition.WellFormed.conditional {t : Transition} (h : t.WellFormed) :
    ∀ g ∈ t.guards.dropLast, g.isUnconditional = false := fun g hg =>
  decide_eq_false (h.condition_ne g hg)

/-- A guard is accepted exactly when no guard of the transition is unconditional, and then it
is the last one. -/
theorem Transition.addGuard_eq_ok_iff {t t' : Transition} {g : Guard} :
    t.addGuard g = .ok t' ↔
      t.hasUnconditionalGuard = false ∧ t' = { t with guards := t.guards ++ [g] } := by
  unfold Transition.addGuard
  by_cases h : t.hasUnconditionalGuard <;> simp [h, eq_comm]

/-- A further guard keeps a transition well formed. -/
theorem Transition.WellFormed.addGuard {t t' : Transition} {g : Guard}
    (h : t.addGuard g = .ok t') : t'.WellFormed := by
  obtain ⟨hnone, rfl⟩ := Transition.addGuard_eq_ok_iff.mp h
  refine ⟨fun g' hg' => ?_⟩
  rw [List.dropLast_concat] at hg'
  simpa [Guard.isUnconditional] using List.any_eq_false.mp hnone g' hg'

/-- A transition that was put together is well formed. -/
theorem Transition.Built.wellFormed {t : Transition} (h : t.Built) : t.WellFormed := by
  induction h with
  | new name line => exact ⟨by simp⟩
  | withParameters parameters _ ih => exact ⟨ih.condition_ne⟩
  | addGuard _ _ hadd _ => exact .addGuard hadd

/-! ### States -/

/-- A state declares the transitions whose names its transitions have. -/
theorem State.defines_iff {s : State} {name : String} :
    s.defines name = true ↔ ∃ t ∈ s.transitions, t.name = name := by
  simp [State.defines, State.transition?]

/-- A transition is accepted exactly when the state declares none of its name. -/
theorem State.addTransition_eq_ok_iff {s s' : State} {t : Transition} :
    s.addTransition t = .ok s' ↔
      s.defines t.name = false ∧ s' = { s with transitions := s.transitions ++ [t] } := by
  unfold State.addTransition
  by_cases h : s.defines t.name <;> simp [h, eq_comm]

/-- A further transition keeps a state well formed. -/
theorem State.WellFormed.addTransition {s s' : State} {t : Transition} (hs : s.WellFormed)
    (ht : t.WellFormed) (h : s.addTransition t = .ok s') : s'.WellFormed := by
  obtain ⟨hnew, rfl⟩ := State.addTransition_eq_ok_iff.mp h
  constructor
  · have hne : ∀ u ∈ s.transitions, u.name ≠ t.name := by
      intro u hu hname
      exact Bool.eq_false_iff.mp hnew (State.defines_iff.mpr ⟨u, hu, hname⟩)
    simpa [List.nodup_append, hs.names_nodup] using hne
  · intro u hu
    rcases List.mem_append.mp hu with hold | hnew
    · exact hs.transitions u hold
    · exact List.mem_singleton.mp hnew ▸ ht

/-- Replacing a transition by one of the same name keeps the list of names. -/
theorem State.map_name_replaceTransition {name : String} {new : Transition}
    (hnew : new.name = name) (ts : List Transition) :
    (State.replaceTransition name new ts).map Transition.name = ts.map Transition.name := by
  induction ts with
  | nil => rfl
  | cons t rest ih =>
      unfold State.replaceTransition
      split_ifs with ht
      · rw [List.map_cons, List.map_cons, hnew, ht]
      · rw [List.map_cons, List.map_cons, ih]

/-- Whatever is there after a replacement was there before or is the new transition. -/
theorem State.mem_replaceTransition {name : String} {new t : Transition}
    {ts : List Transition} (h : t ∈ State.replaceTransition name new ts) :
    t = new ∨ t ∈ ts := by
  induction ts with
  | nil => cases h
  | cons u rest ih =>
      unfold State.replaceTransition at h
      split_ifs at h with hu
      · exact (List.mem_cons.mp h).imp_right (List.mem_cons_of_mem u)
      · rcases List.mem_cons.mp h with rfl | hrest
        · exact .inr List.mem_cons_self
        · exact (ih hrest).imp_right (List.mem_cons_of_mem u)

/-- A transition is extended exactly when there is one that accepts the guard. -/
theorem State.extendTransition_eq_ok_iff {s s' : State} {name : String} {g : Guard} :
    s.extendTransition name g = some (.ok s') ↔
      ∃ t t', s.transition? name = some t ∧ t.addGuard g = .ok t' ∧
        s' = { s with transitions := State.replaceTransition name t' s.transitions } := by
  unfold State.extendTransition
  cases hfind : s.transition? name with
  | none => simp
  | some t => cases hadd : t.addGuard g <;> simp [Except.map, hadd, eq_comm]

/-- Extending a transition keeps a state well formed. -/
theorem State.WellFormed.extendTransition {s s' : State} {name : String} {g : Guard}
    (hs : s.WellFormed) (h : s.extendTransition name g = some (.ok s')) : s'.WellFormed := by
  obtain ⟨t, t', hfind, hadd, rfl⟩ := State.extendTransition_eq_ok_iff.mp h
  have hname : t'.name = name := by
    obtain ⟨_, rfl⟩ := Transition.addGuard_eq_ok_iff.mp hadd
    simpa using List.find?_some hfind
  constructor
  · rw [State.map_name_replaceTransition hname]
    exact hs.names_nodup
  · intro u hu
    rcases State.mem_replaceTransition hu with rfl | hold
    · exact .addGuard hadd
    · exact hs.transitions u hold

/-- A state that was put together is well formed. -/
theorem State.Built.wellFormed {s : State} (h : s.Built) : s.WellFormed := by
  induction h with
  | new className line => exact ⟨by simp, by simp⟩
  | addEntryAction action _ ih => exact ⟨ih.names_nodup, ih.transitions⟩
  | addExitAction action _ ih => exact ⟨ih.names_nodup, ih.transitions⟩
  | addTransition _ ht hadd ih => exact ih.addTransition ht.wellFormed hadd
  | extendTransition _ _ hextend ih => exact ih.extendTransition hextend

/-! ### Maps -/

/-- A state is the default state of its map if it has the reserved name. -/
theorem State.isDefault_iff {s : State} : s.isDefault = true ↔ s.className = "Default" :=
  decide_eq_true_iff

/-- It is an ordinary state if it has not. -/
theorem State.isDefault_eq_false_iff {s : State} :
    s.isDefault = false ↔ s.className ≠ "Default" :=
  decide_eq_false_iff_not

/-- An ordinary state goes by its class name. -/
theorem State.instanceName_of_ordinary {s : State} (h : s.isDefault = false) :
    s.instanceName = s.className := by
  simp [State.instanceName, h]

namespace Map.WellFormed

variable {m : Map}

/-- Ordinary states are not the default state. -/
theorem ordinary (h : m.WellFormed) : ∀ s ∈ m.states, s.isDefault = false := fun s hs =>
  State.isDefault_eq_false_iff.mpr (h.className_ne s hs)

/-- The default state is the default state. -/
theorem isDefault (h : m.WellFormed) : ∀ s ∈ m.defaultState, s.isDefault = true := fun s hs =>
  State.isDefault_iff.mpr (h.className_eq s hs)

/-- The names of ordinary states are their class names. -/
theorem map_instanceName (h : m.WellFormed) :
    m.states.map State.instanceName = m.states.map State.className :=
  List.map_congr_left fun s hs => State.instanceName_of_ordinary (h.ordinary s hs)

/-- The ordinary states have distinct names. -/
theorem names_nodup (h : m.WellFormed) : (m.states.map State.instanceName).Nodup := by
  rw [h.map_instanceName]
  exact h.classNames_nodup

end Map.WellFormed

/-- A map knows the states whose instance names its ordinary states have. -/
theorem Map.isKnownState_iff {m : Map} {name : String} :
    m.isKnownState name = true ↔ ∃ s ∈ m.states, s.instanceName = name := by
  simp [Map.isKnownState, Map.state?]

/-- A state is accepted as the default state if there is none, and as an ordinary state if
there is none of its name. -/
theorem Map.addState_eq_ok_iff {m m' : Map} {s : State} :
    m.addState s = .ok m' ↔
      (s.isDefault = true ∧ m.defaultState = none ∧ m' = { m with defaultState := some s }) ∨
      (s.isDefault = false ∧ m.isKnownState s.instanceName = false ∧
        m' = { m with states := m.states ++ [s] }) := by
  unfold Map.addState
  cases hdefault : s.isDefault <;> cases hslot : m.defaultState <;>
    cases hknown : m.isKnownState s.instanceName <;> simp [eq_comm]

/-- A further ordinary state of a new name keeps the names of the ordinary states distinct. -/
theorem Map.WellFormed.nodup_className_append {m : Map} {s : State} (hm : m.WellFormed)
    (hs : s.isDefault = false) (hnew : m.isKnownState s.instanceName = false) :
    ((m.states ++ [s]).map State.className).Nodup := by
  have hne : ∀ u ∈ m.states, u.className ≠ s.className := by
    intro u hu hname
    refine Bool.eq_false_iff.mp hnew (Map.isKnownState_iff.mpr ⟨u, hu, ?_⟩)
    rw [State.instanceName_of_ordinary (hm.ordinary u hu), State.instanceName_of_ordinary hs, hname]
  simpa [List.nodup_append, hm.classNames_nodup] using hne

/-- A further state keeps a map well formed. -/
theorem Map.WellFormed.addState {m m' : Map} {s : State} (hm : m.WellFormed)
    (hs : s.WellFormed) (h : m.addState s = .ok m') : m'.WellFormed := by
  rcases Map.addState_eq_ok_iff.mp h with ⟨hdefault, hslot, rfl⟩ | ⟨hordinary, hnew, rfl⟩
  · refine ⟨hm.classNames_nodup, hm.className_ne, ?_, ?_⟩
    · rintro _ ⟨⟩
      exact State.isDefault_iff.mp hdefault
    · intro u hu
      rcases List.mem_cons.mp hu with rfl | hold
      · exact hs
      · exact hm.states u (List.mem_append_right _ hold)
  · refine ⟨hm.nodup_className_append hordinary hnew, ?_, hm.className_eq, ?_⟩
    · intro u hu
      rcases List.mem_append.mp hu with hold | hlast
      · exact hm.className_ne u hold
      · exact List.mem_singleton.mp hlast ▸ State.isDefault_eq_false_iff.mp hordinary
    · intro u hu
      simp only [Map.allStates, ← List.append_assoc] at hu
      rcases List.mem_append.mp hu with hold | hlast
      · exact hm.states u hold
      · exact List.mem_singleton.mp hlast ▸ hs

/-- A map that was put together is well formed. -/
theorem Map.Built.wellFormed {m : Map} (h : m.Built) : m.WellFormed := by
  induction h with
  | new name line => exact ⟨by simp, by simp, by simp, by simp [Map.allStates]⟩
  | addState _ hs hadd ih => exact ih.addState hs.wellFormed hadd

/-! ### Machines -/

/-- A map is accepted exactly when there is none of its name. -/
theorem Machine.addMap_eq_ok_iff {m m' : Machine} {map : Map} :
    m.addMap map = .ok m' ↔
      (m.map? map.name).isSome = false ∧ m' = { m with maps := m.maps ++ [map] } := by
  unfold Machine.addMap
  by_cases h : (m.map? map.name).isSome <;> simp [h, eq_comm]

/-- A further map keeps the names of the maps distinct. -/
theorem Machine.nodup_map_name_of_addMap {m m' : Machine} {map : Map}
    (hm : (m.maps.map Map.name).Nodup) (h : m.addMap map = .ok m') :
    (m'.maps.map Map.name).Nodup := by
  obtain ⟨hnew, rfl⟩ := Machine.addMap_eq_ok_iff.mp h
  have hne : ∀ u ∈ m.maps, u.name ≠ map.name := by
    intro u hu hname
    refine Bool.eq_false_iff.mp hnew ?_
    simpa [Machine.map?] using ⟨u, hu, hname⟩
  simpa [List.nodup_append, hm] using hne

/-- A further map keeps a machine well formed. -/
theorem Machine.WellFormed.addMap {m m' : Machine} {map : Map} (hm : m.WellFormed)
    (hmap : map.WellFormed) (h : m.addMap map = .ok m') : m'.WellFormed := by
  refine ⟨Machine.nodup_map_name_of_addMap hm.names_nodup h, ?_⟩
  obtain ⟨-, rfl⟩ := Machine.addMap_eq_ok_iff.mp h
  intro u hu
  rcases List.mem_append.mp hu with hold | hlast
  · exact hm.maps u hold
  · exact List.mem_singleton.mp hlast ▸ hmap

/-- **Construction keeps the rules**: a machine that was put together is well formed. -/
theorem Machine.Built.wellFormed {m : Machine} (h : m.Built) : m.WellFormed := by
  induction h with
  | new context => exact ⟨by simp, by simp⟩
  | addMap _ hmap hadd ih => exact ih.addMap hmap.wellFormed hadd
  | setStart name line _ ih => exact ⟨ih.names_nodup, ih.maps⟩
  | declare package source sourceFile header imports includes declarations _ ih =>
      exact ⟨ih.names_nodup, ih.maps⟩

end StateMachine
