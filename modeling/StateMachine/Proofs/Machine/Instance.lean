import Mathlib.Data.List.Induction
import Mathlib.Data.Prod.Basic
import StateMachine.Proofs.Construction

/-!
# Instance Names

The states of a map are told apart by their instance names. A map takes an ordinary state only if it
has none of its instance name; the default state has a place of its own, and is not compared with
the others. Its instance name is `DefaultState`, which an ordinary state can have as well.

## Main results

* `Map.Gathered.attempt`: what a map holds after one more state was given to it, taken or refused.
* `instance_names_nodup_iff`: the instance names of a map are distinct **unless it was given both a
  default state and a state `DefaultState`**, and the qualified instance names of a machine are
  distinct if and only if those of each of its maps are.
* `default_state_name_taken`: a map with two states of one instance name.

## Conventions

States and maps are given one after the other, also after one that was refused. A refusal leaves the
map or the machine as it was.
-/

namespace StateMachine

/-! ### One after the other -/

/-- The map after it was given `s`, which it may have refused. -/
def Map.attempt (m : Map) (s : State) : Map :=
  match m.addState s with
  | .ok m' => m'
  | .error _ => m

/-- The machine after it was given `map`, which it may have refused. -/
def Machine.attempt (m : Machine) (map : Map) : Machine :=
  match m.addMap map with
  | .ok m' => m'
  | .error _ => m

/-- The instance names of all states with the names of their maps. -/
def Machine.instanceNames (m : Machine) : List (String × String) :=
  m.maps.flatMap fun map => map.allStates.map fun s => (map.name, s.instanceName)

/-! ### The states of a map -/

/-- The instance name of a default state. -/
theorem State.instanceName_of_isDefault {s : State} (h : s.isDefault = true) :
    s.instanceName = "DefaultState" := by
  rw [State.instanceName, if_pos h, State.isDefault_iff.mp h]
  decide

/-- The ordinary states with the instance name of a default state. -/
theorem State.ordinary_defaultState_iff {s : State} :
    s.isDefault = false ∧ s.instanceName = "DefaultState" ↔ s.className = "DefaultState" := by
  constructor
  · rintro ⟨hs, hname⟩
    rwa [State.instanceName_of_ordinary hs] at hname
  · intro hname
    have hs : s.isDefault = false := by
      rw [State.isDefault, hname]
      decide
    exact ⟨hs, (State.instanceName_of_ordinary hs).trans hname⟩

/-- A further state of a new name keeps the names of the ordinary states distinct. -/
theorem Map.nodup_instanceName_append {m : Map} {s : State}
    (hm : (m.states.map State.instanceName).Nodup)
    (hnew : m.isKnownState s.instanceName = false) :
    ((m.states ++ [s]).map State.instanceName).Nodup := by
  have hne : ∀ u ∈ m.states, u.instanceName ≠ s.instanceName := by
    intro u hu hname
    exact Bool.eq_false_iff.mp hnew (Map.isKnownState_iff.mpr ⟨u, hu, hname⟩)
  simpa [List.nodup_append, hm] using hne

/-- The map `m` holds what there is in `states`: a default state if there is one, and ordinary
states of all instance names that there are, each once. -/
structure Map.Gathered (states : List State) (m : Map) : Prop where
  names_nodup : (m.states.map State.instanceName).Nodup
  isDefault : ∀ s ∈ m.defaultState, s.isDefault = true
  isSome_defaultState_iff : m.defaultState.isSome = true ↔ ∃ s ∈ states, s.isDefault = true
  isKnownState_iff : ∀ name, m.isKnownState name = true ↔
    ∃ s ∈ states, s.isDefault = false ∧ s.instanceName = name

namespace Map.Gathered

variable {m : Map} {states : List State}

/-- A new map holds nothing. -/
theorem new (name : String) (line : Nat) : Gathered [] { name, line } := by
  constructor <;> simp [Map.isKnownState, Map.state?]

/-- What a map holds after it was given a default state. -/
theorem attempt_default (h : Gathered states m) {s : State} (hs : s.isDefault = true) :
    Gathered (states ++ [s]) (m.attempt s) := by
  have hknown : ∀ name, (∃ u ∈ states ++ [s], u.isDefault = false ∧ u.instanceName = name) ↔
      ∃ u ∈ states, u.isDefault = false ∧ u.instanceName = name := by
    intro name
    simp [hs, or_and_right, exists_or]
  have hdefault : ∃ u ∈ states ++ [s], u.isDefault = true := ⟨s, by simp, hs⟩
  cases hslot : m.defaultState with
  | none =>
      have hadd : m.addState s = .ok { m with defaultState := some s } :=
        Map.addState_eq_ok_iff.mpr (.inl ⟨hs, hslot, rfl⟩)
      rw [Map.attempt, hadd]
      refine ⟨h.names_nodup, ?_, iff_of_true rfl hdefault, fun name => ?_⟩
      · rintro _ ⟨⟩
        exact hs
      · rw [hknown]
        exact h.isKnownState_iff name
  | some d =>
      have hadd : m.addState s = .error (.duplicateDefaultState m.name s.line) := by
        rw [Map.addState, if_pos hs, hslot, Option.isSome_some, if_pos rfl]
      rw [Map.attempt, hadd]
      refine ⟨h.names_nodup, h.isDefault, iff_of_true ?_ hdefault, fun name => ?_⟩
      · rw [hslot, Option.isSome_some]
      · rw [hknown]
        exact h.isKnownState_iff name

/-- What a map holds after it was given an ordinary state. -/
theorem attempt_ordinary (h : Gathered states m) {s : State} (hs : s.isDefault = false) :
    Gathered (states ++ [s]) (m.attempt s) := by
  have hdefault : (∃ u ∈ states ++ [s], u.isDefault = true) ↔ ∃ u ∈ states, u.isDefault = true := by
    simp [hs, or_and_right, exists_or]
  cases hknown : m.isKnownState s.instanceName with
  | false =>
      have hadd : m.addState s = .ok { m with states := m.states ++ [s] } :=
        Map.addState_eq_ok_iff.mpr (.inr ⟨hs, hknown, rfl⟩)
      rw [Map.attempt, hadd]
      refine ⟨Map.nodup_instanceName_append h.names_nodup hknown, h.isDefault,
        h.isSome_defaultState_iff.trans hdefault.symm, fun name => ?_⟩
      have hold := h.isKnownState_iff name
      rw [Map.isKnownState_iff] at hold ⊢
      simp [or_and_right, exists_or, hold, hs]
  | true =>
      have hadd : m.addState s = .error (.duplicateState m.name s.instanceName s.line) := by
        rw [Map.addState, hs, if_neg Bool.false_ne_true, if_pos hknown]
      rw [Map.attempt, hadd]
      refine ⟨h.names_nodup, h.isDefault, h.isSome_defaultState_iff.trans hdefault.symm,
        fun name => ?_⟩
      rw [h.isKnownState_iff]
      constructor
      · rintro ⟨u, hu, hboth⟩
        exact ⟨u, List.mem_append_left _ hu, hboth⟩
      · rintro ⟨u, hu, hboth⟩
        rcases List.mem_append.mp hu with hold | hlast
        · exact ⟨u, hold, hboth⟩
        · -- another state of that name is there already
          obtain rfl := List.mem_singleton.mp hlast
          rw [← hboth.2]
          exact (h.isKnownState_iff _).mp hknown

/-- **What a map holds after it was given one more state**, taken or refused. -/
theorem attempt (h : Gathered states m) (s : State) :
    Gathered (states ++ [s]) (m.attempt s) := by
  cases hs : s.isDefault with
  | true => exact h.attempt_default hs
  | false => exact h.attempt_ordinary hs

/-- What a map holds after it was given states one after the other. -/
theorem of_foldl (name : String) (line : Nat) (states : List State) :
    Gathered states (states.foldl Map.attempt { name, line }) := by
  induction states using List.reverseRecOn with
  | nil => exact new name line
  | append_singleton states s ih =>
      rw [List.foldl_append]
      exact ih.attempt s

/-- The instance names of the states, the default state included, are distinct unless the map holds
a default state and an ordinary state of its instance name. -/
theorem nodup_allStates_iff (h : Gathered states m) :
    (m.allStates.map State.instanceName).Nodup ↔
      ¬ (m.defaultState.isSome = true ∧ m.isKnownState "DefaultState" = true) := by
  rw [Map.isKnownState_iff]
  cases hslot : m.defaultState with
  | none => simpa [Map.allStates, hslot] using h.names_nodup
  | some d =>
      have hd : d.instanceName = "DefaultState" :=
        State.instanceName_of_isDefault (h.isDefault d hslot)
      simp [Map.allStates, hslot, hd, h.names_nodup]

end Map.Gathered

/-! ### The states of a machine -/

/-- Maps that were given one after the other have distinct names. -/
theorem Machine.nodup_map_name_foldl (context : String) (maps : List Map) :
    ((maps.foldl Machine.attempt { context }).maps.map Map.name).Nodup := by
  induction maps using List.reverseRecOn with
  | nil => exact List.nodup_nil
  | append_singleton maps map ih =>
      rw [List.foldl_append, List.foldl_cons, List.foldl_nil]
      generalize maps.foldl Machine.attempt { context } = m at ih ⊢
      unfold Machine.attempt
      split
      · next m' hadd => exact Machine.nodup_map_name_of_addMap ih hadd
      · exact ih

/-- With distinct names of maps, the qualified instance names are distinct if and only if those in
each map are. -/
theorem Machine.nodup_instanceNames_iff {m : Machine} (h : (m.maps.map Map.name).Nodup) :
    m.instanceNames.Nodup ↔ ∀ map ∈ m.maps, (map.allStates.map State.instanceName).Nodup := by
  have hinside (map : Map) : (map.allStates.map fun s => (map.name, s.instanceName)).Nodup ↔
      (map.allStates.map State.instanceName).Nodup := by
    have hpairs : map.allStates.map (fun s => (map.name, s.instanceName)) =
        (map.allStates.map State.instanceName).map (Prod.mk map.name) := by
      rw [List.map_map]
      rfl
    rw [hpairs, List.nodup_map_iff (Prod.mk_right_injective map.name)]
  rw [Machine.instanceNames, List.nodup_flatMap]
  simp only [hinside, and_iff_left_iff_imp]
  intro _
  refine (List.pairwise_map.mp h).imp fun {a b} hne => ?_
  refine List.disjoint_left.mpr ?_
  rintro _ ha hb
  obtain ⟨s, -, rfl⟩ := List.mem_map.mp ha
  obtain ⟨u, -, heq⟩ := List.mem_map.mp hb
  exact hne (congrArg Prod.fst heq).symm

/-- **When instance names identify states.** Whatever states a map is given, its ordinary states
have distinct instance names; and with the default state they have, unless the map was given both a
default state and an ordinary state `DefaultState`. Whatever maps a machine is given, an instance
name and the name of a map denote at most one of its states if and only if the instance names in
each of its maps are distinct. -/
theorem instance_names_nodup_iff (name : String) (line : Nat) (states : List State)
    (context : String) (maps : List Map) :
    ((states.foldl Map.attempt { name, line }).states.map State.instanceName).Nodup ∧
      (((states.foldl Map.attempt { name, line }).allStates.map State.instanceName).Nodup ↔
        ¬ ((∃ s ∈ states, s.className = "Default") ∧
          ∃ s ∈ states, s.className = "DefaultState")) ∧
      ((maps.foldl Machine.attempt { context }).instanceNames.Nodup ↔
        ∀ map ∈ (maps.foldl Machine.attempt { context }).maps,
          (map.allStates.map State.instanceName).Nodup) := by
  have h := Map.Gathered.of_foldl name line states
  refine ⟨h.names_nodup, ?_,
    Machine.nodup_instanceNames_iff (Machine.nodup_map_name_foldl context maps)⟩
  rw [h.nodup_allStates_iff, h.isSome_defaultState_iff, h.isKnownState_iff]
  simp only [State.isDefault_iff, State.ordinary_defaultState_iff]

/-- A map that is given its default state and a state `DefaultState` takes both, and they have one
instance name. -/
theorem default_state_name_taken :
    let states : List State := [{ className := "Default" }, { className := "DefaultState" }]
    (states.foldl Map.attempt { name := "M" }).allStates.map State.instanceName =
        ["DefaultState", "DefaultState"] ∧
      ¬ ∀ (name : String) (line : Nat) (states : List State),
        ((states.foldl Map.attempt { name, line }).allStates.map State.instanceName).Nodup := by
  intro states
  have hnames : (states.foldl Map.attempt { name := "M" }).allStates.map State.instanceName =
      ["DefaultState", "DefaultState"] := by decide
  refine ⟨hnames, fun hnodup => ?_⟩
  have h := hnodup "M" 0 states
  rw [hnames] at h
  simp at h

end StateMachine
