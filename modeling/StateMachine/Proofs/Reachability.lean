import Mathlib.Logic.Relation
import StateMachine.Proofs.Program.Dispatch

/-!
# Runs Stay Within the Reachable States

A machine stands in a state, with a stack of states to return to. It moves by firing a guard of
the state, or of the default state of its map, and its stack may be emptied at any time. The
search for unreachable states looks at single places and at the places that guards name. It
does not look at stacks, and a pop names no place. `Machine.Moves` has stacks and pops, and no
run along it ever meets a place that the search leaves over.

## Proof strategy

What the search leaves over is closed backwards: an unseen place that is taken out takes its
successors out as well (`notMem_unreached_of_successor`). So the invariant of a run is that the
current state and **every** stacked one are taken out. A pop keeps it because it held below.

## Conventions

* A state that is listed is meant by its place. Two places may have one text, if a name in them
  contains `::`.
* A guard fires whatever its condition is, and its actions count for nothing but the emptying
  of the stack.

## Main results

* `Machine.Safe.after`, `Machine.Safe.moves`: one move keeps the invariant.
* `Machine.isSome_after`: every guard can be fired where it stands.
* `run_avoids_unreachable`: in **every run** of a valid machine, no listed state is ever current
  or on the stack.
-/

namespace StateMachine

/-! ### What the search leaves over -/

section

variable {successors : Place → List Place} {unseen frontier : List Place} {p q : Place}

/-- What is left over was unseen. -/
theorem unreached_subset : unreached successors unseen frontier ⊆ unseen := by
  fun_induction unreached successors unseen frontier with
  | case1 unseen frontier _ ih => exact List.Subset.trans ih List.filter_sublist.subset
  | case2 unseen frontier _ => exact List.Subset.refl unseen

/-- No place of the frontier is left over. -/
theorem notMem_unreached_of_mem_frontier (h : p ∈ frontier) :
    p ∉ unreached successors unseen frontier := by
  intro hleft
  unfold unreached at hleft
  split_ifs at hleft with hfewer
  · simpa [outside, h] using unreached_subset hleft
  · have hkept : outside frontier unseen = unseen :=
      List.filter_eq_self.mpr (List.length_filter_eq_length_iff.mp
        (Nat.le_antisymm (List.length_filter_le _ unseen) (Nat.le_of_not_lt hfewer)))
    rw [← hkept] at hleft
    simp [outside, h] at hleft

/-- **What is left over is closed backwards**: with a place, its successors are taken out. -/
theorem notMem_unreached_of_successor (hp : p ∈ unseen)
    (htaken : p ∉ unreached successors unseen frontier) (hq : q ∈ successors p) :
    q ∉ unreached successors unseen frontier := by
  fun_induction unreached successors unseen frontier with
  | case1 unseen frontier _ ih =>
      by_cases hfrontier : p ∈ frontier
      · refine notMem_unreached_of_mem_frontier (List.mem_flatMap.mpr ⟨p, ?_, hq⟩)
        simpa [inside] using ⟨hp, hfrontier⟩
      · exact ih (by simpa [outside] using ⟨hp, hfrontier⟩) htaken
  | case2 unseen frontier _ => exact absurd hp htaken

end

/-! ### Moves -/

/-- A state with its map. -/
abbrev Location := Map × State

/-- The place of a location. -/
def Location.place (x : Location) : Place :=
  .ofState x.1 x.2

/-- Where a machine stands: its current state, and the states to return to, the latest last. -/
structure Standing where
  current : Location
  stack : List Location := []

namespace Standing

/-- The states that a machine is in or returns to. -/
def locations (x : Standing) : List Location :=
  x.current :: x.stack

end Standing

namespace Machine

/-- Where a machine stands when a guard has fired. There is nothing if the guard names a state
that is not there. A pop from an empty stack changes nothing. -/
def after? (m : Machine) (g : Guard) (x : Standing) : Option Standing :=
  let locate (target : Reference) := m.resolve? target x.current.1.name
  match g.transfer with
  | .set .nil => some x
  | .set (.named target) => (locate target).map fun y => { x with current := y }
  | .push .nil pushed =>
    (locate pushed).map fun y => { current := y, stack := x.stack ++ [x.current] }
  | .push (.named target) pushed => do
    return { stack := x.stack ++ [← locate target], current := ← locate pushed }
  | .pop _ _ =>
    match x.stack.getLast? with
    | some top => some { current := top, stack := x.stack.dropLast }
    | none => some x

/-- The moves of a machine: a guard of the current state or of the default state of its map
fires, or the stack is emptied. -/
inductive Moves (m : Machine) : Standing → Standing → Prop
  | fire {x y : Standing} {g : Guard} :
      g ∈ guardsAt x.current.1 x.current.2 → m.after? g x = some y → Moves m x y
  | emptyStack {x : Standing} : Moves m x { x with stack := [] }

end Machine

/-- Where a validated machine stands at first. -/
def Validated.standing (v : Validated) : Standing :=
  { current := (v.startMap, v.startState) }

/-! ### Places and references -/

section

variable {m : Machine}

/-- What a reference means is an ordinary state of the machine. -/
theorem Machine.mem_states_of_resolve? {r : Reference} {name : String} {x : Location}
    (h : m.resolve? r name = some x) : x ∈ m.states := by
  obtain ⟨map, hmap, h⟩ := Option.bind_eq_some_iff.mp h
  obtain ⟨s, hs, rfl⟩ := Option.map_eq_some_iff.mp h
  exact Machine.mem_states_iff.mpr ⟨List.mem_of_find?_eq_some hmap, List.mem_of_find?_eq_some hs⟩

/-- **The place of a state means the state.** -/
theorem Machine.WellFormed.resolve?_place (hm : m.WellFormed) {x : Location}
    (hx : x ∈ m.states) :
    m.resolve? (.qualified x.place.map x.place.state) x.place.map = some x := by
  obtain ⟨map, s⟩ := x
  obtain ⟨hmap, hs⟩ := Machine.mem_states_iff.mp hx
  have hfindMap : m.map? map.name = some map := by
    obtain ⟨map', hmap'⟩ := Option.isSome_iff_exists.mp
      (show (m.map? map.name).isSome by simpa [Machine.map?] using ⟨map, hmap, rfl⟩)
    have hname : map'.name = map.name := by simpa using List.find?_some hmap'
    obtain rfl : map' = map := List.inj_on_of_nodup_map hm.names_nodup
      (List.mem_of_find?_eq_some hmap') hmap hname
    exact hmap'
  have hfindState : map.state? s.instanceName = some s := by
    obtain ⟨s', hs'⟩ := Option.isSome_iff_exists.mp (Map.isKnownState_iff.mpr ⟨s, hs, rfl⟩)
    have hname : s'.instanceName = s.instanceName := by simpa using List.find?_some hs'
    obtain rfl : s' = s := List.inj_on_of_nodup_map (hm.maps map hmap).names_nodup
      (List.mem_of_find?_eq_some hs') hs hname
    exact hs'
  show (m.map? map.name).bind _ = _
  rw [hfindMap, Option.bind_some]
  show (map.state? s.instanceName).map _ = _
  rw [hfindState, Option.map_some]

/-- Whatever a guard names is a successor of the places where the guard may fire. -/
theorem Machine.WellFormed.place_mem_successors (hm : m.WellFormed) {x y : Location}
    (hx : x ∈ m.states) {g : Guard} (hg : g ∈ guardsAt x.1 x.2) {r : Reference}
    (hr : r ∈ g.references) (hy : m.resolve? r x.1.name = some y) :
    y.place ∈ m.successors x.place := by
  unfold Machine.successors
  rw [hm.resolve?_place hx]
  refine List.mem_flatMap.mpr ⟨g, hg, List.mem_filterMap.mpr ⟨r, hr, ?_⟩⟩
  rw [hy]
  rfl

end

/-! ### The invariant of a run -/

/-- The machine has all locations of a standing, and the search from `start` leaves none of
their places over. -/
structure Machine.Safe (m : Machine) (start : Place) (x : Standing) : Prop where
  states : ∀ y ∈ x.locations, y ∈ m.states
  taken : ∀ y ∈ x.locations, y.place ∉ m.unreachablePlaces start

namespace Machine

variable {m : Machine} {start : Place} {x y : Standing} {g : Guard}

/-- What a guard names can be moved to and stacked safely. -/
theorem Safe.resolved (h : m.Safe start x) (hm : m.WellFormed)
    (hg : g ∈ guardsAt x.current.1 x.current.2) {r : Reference} (hr : r ∈ g.references)
    {z : Location} (hz : m.resolve? r x.current.1.name = some z) :
    z ∈ m.states ∧ z.place ∉ m.unreachablePlaces start := by
  have hcurrent := h.states x.current List.mem_cons_self
  have hplace : x.current.place ∈ m.places := List.mem_map.mpr ⟨x.current, hcurrent, rfl⟩
  exact ⟨mem_states_of_resolve? hz,
    notMem_unreached_of_successor hplace (h.taken x.current List.mem_cons_self)
      (hm.place_mem_successors hcurrent hg hr hz)⟩

/-- A standing made of safe locations is safe. -/
theorem Safe.of_locations
    (h : ∀ z ∈ x.locations, z ∈ m.states ∧ z.place ∉ m.unreachablePlaces start) :
    m.Safe start x :=
  ⟨fun z hz => (h z hz).1, fun z hz => (h z hz).2⟩

/-- **A guard that fires keeps the invariant.** -/
theorem Safe.after (h : m.Safe start x) (hm : m.WellFormed)
    (hg : g ∈ guardsAt x.current.1 x.current.2) (hy : m.after? g x = some y) :
    m.Safe start y := by
  have hold : ∀ z ∈ x.locations, z ∈ m.states ∧ z.place ∉ m.unreachablePlaces start :=
    fun z hz => ⟨h.states z hz, h.taken z hz⟩
  have hnew : ∀ r ∈ g.references, ∀ z : Location, m.resolve? r x.current.1.name = some z →
      z ∈ m.states ∧ z.place ∉ m.unreachablePlaces start := fun r hr z hz =>
    h.resolved hm hg hr hz
  unfold Guard.references Guard.endReference? Guard.endState? Guard.pushed? at hnew
  unfold after? at hy
  refine Safe.of_locations fun z hz => ?_
  cases htransfer : g.transfer with
  | set target =>
      cases target with
      | nil =>
          simp only [htransfer, Option.some.injEq] at hy
          subst hy
          exact hold z hz
      | named r =>
          simp only [htransfer] at hy hnew
          obtain ⟨w, hw, rfl⟩ := Option.map_eq_some_iff.mp hy
          rcases List.mem_cons.mp hz with rfl | hstack
          · exact hnew r (by simp [EndState.reference?]) z hw
          · exact hold z (List.mem_cons_of_mem _ hstack)
  | push target pushed =>
      cases target with
      | nil =>
          simp only [htransfer] at hy hnew
          obtain ⟨w, hw, rfl⟩ := Option.map_eq_some_iff.mp hy
          rcases List.mem_cons.mp hz with rfl | hstack
          · exact hnew pushed (by simp) z hw
          · rcases List.mem_append.mp hstack with hstack | hlast
            · exact hold z (List.mem_cons_of_mem _ hstack)
            · exact hold z (List.mem_singleton.mp hlast ▸ List.mem_cons_self)
      | named r =>
          simp only [htransfer] at hy hnew
          obtain ⟨u, hu, hy⟩ := Option.bind_eq_some_iff.mp hy
          obtain ⟨w, hw, hy⟩ := Option.bind_eq_some_iff.mp hy
          obtain rfl := Option.some.inj hy
          rcases List.mem_cons.mp hz with rfl | hstack
          · exact hnew pushed (by simp) z hw
          · rcases List.mem_append.mp hstack with hstack | hlast
            · exact hold z (List.mem_cons_of_mem _ hstack)
            · exact hnew r (by simp [EndState.reference?]) z (List.mem_singleton.mp hlast ▸ hu)
  | pop transition arguments =>
      simp only [htransfer] at hy
      cases htop : x.stack.getLast? with
      | none =>
          simp only [htop, Option.some.injEq] at hy
          subst hy
          exact hold z hz
      | some top =>
          simp only [htop, Option.some.injEq] at hy
          subst hy
          rcases List.mem_cons.mp hz with rfl | hstack
          · exact hold z (List.mem_cons_of_mem _ (List.mem_of_getLast? htop))
          · exact hold z (List.mem_cons_of_mem _ (List.dropLast_subset _ hstack))

/-- **One move keeps the invariant.** -/
theorem Safe.moves (h : m.Safe start x) (hm : m.WellFormed) (hmove : m.Moves x y) :
    m.Safe start y := by
  cases hmove with
  | fire hg hy => exact h.after hm hg hy
  | emptyStack =>
      refine Safe.of_locations fun z hz => ?_
      have hcurrent : z ∈ x.locations := List.mem_singleton.mp hz ▸ List.mem_cons_self
      exact ⟨h.states z hcurrent, h.taken z hcurrent⟩

end Machine

/-! ### Valid machines -/

section

variable {m : Machine} {v : Validated}

/-- What validation has established: where the machine starts, that its guards have no defect,
and what is listed as unreachable. -/
theorem Machine.validate_eq_ok (h : m.validate = .ok v) :
    v.standing.current ∈ m.states ∧ m.allGuardDefects = [] ∧
      v.unreachable = m.unreachablePlaces v.standing.current.place := by
  unfold Machine.validate at h
  split at h
  · cases h
  · cases h
  · next start _ _ =>
      split at h
      · cases h
      · next map s hstart =>
          split at h
          · cases h
          · next hdefects =>
              obtain rfl := Except.ok.inj h
              refine ⟨?_, hdefects, rfl⟩
              unfold Machine.resolveStart at hstart
              split at hstart
              · split at hstart
                · next hresolve =>
                    obtain rfl := Except.ok.inj hstart
                    exact Machine.mem_states_of_resolve? hresolve
                · cases hstart
              · split at hstart
                · cases hstart
                · next only honly =>
                    obtain rfl := Except.ok.inj hstart
                    have hmem : (map, s) ∈ m.statesNamed _ := honly ▸ List.mem_singleton_self _
                    exact List.mem_of_mem_filter hmem
                · cases hstart

/-- A valid machine has every state that its guards name. -/
theorem Machine.isSome_resolve?_of_mem (h : m.validate = .ok v) {map : Map} (hmap : map ∈ m.maps)
    {s : State} (hs : s ∈ map.allStates) {g : Guard} (hg : g ∈ s.guards) {r : Reference}
    (hr : r ∈ g.references) : (m.resolve? r map.name).isSome := by
  have hnone : m.guardDefects m.issuableNames map g = [] :=
    List.flatMap_eq_nil_iff.mp (List.flatMap_eq_nil_iff.mp
      (List.flatMap_eq_nil_iff.mp (Machine.validate_eq_ok h).2.1 map hmap) s hs) g hg
  have hsound : m.targetDefect? map g.line r = none :=
    List.filterMap_eq_nil_iff.mp (List.append_eq_nil_iff.mp hnone).1 r hr
  unfold Machine.targetDefect? at hsound
  split_ifs at hsound with _ hresolves
  exact hresolves

/-- So it has every state that a guard names that may be taken in one of its states. -/
theorem Machine.isSome_resolve? (h : m.validate = .ok v) {x : Location} (hx : x ∈ m.states)
    {g : Guard} (hg : g ∈ guardsAt x.1 x.2) {r : Reference} (hr : r ∈ g.references) :
    (m.resolve? r x.1.name).isSome := by
  obtain ⟨hmap, hs⟩ := Machine.mem_states_iff.mp hx
  obtain ⟨s, hstate, hguard⟩ : ∃ s ∈ x.1.allStates, g ∈ s.guards := by
    rcases List.mem_append.mp hg with hown | hdefault
    · exact ⟨x.2, List.mem_append_right _ hs, hown⟩
    · obtain ⟨d, hd, hdefault⟩ := List.mem_flatMap.mp hdefault
      exact ⟨d, List.mem_append_left _ hd, hdefault⟩
  exact Machine.isSome_resolve?_of_mem h hmap hstate hguard hr

/-- **Every guard can be fired** where a valid machine has it. -/
theorem Machine.isSome_after? (h : m.validate = .ok v) {x : Standing}
    (hx : x.current ∈ m.states) {g : Guard} (hg : g ∈ guardsAt x.current.1 x.current.2) :
    (m.after? g x).isSome := by
  have hnamed : ∀ r ∈ g.references, ∃ z, m.resolve? r x.current.1.name = some z :=
    fun r hr => Option.isSome_iff_exists.mp (Machine.isSome_resolve? h hx hg hr)
  unfold Guard.references Guard.endReference? Guard.endState? Guard.pushed? at hnamed
  unfold Machine.after?
  cases htransfer : g.transfer with
  | set target =>
      cases target with
      | nil => rfl
      | named r =>
          simp only [htransfer] at hnamed
          obtain ⟨z, hz⟩ := hnamed r (by simp [EndState.reference?])
          simp [hz]
  | push target pushed =>
      simp only [htransfer] at hnamed
      obtain ⟨z, hz⟩ := hnamed pushed (by simp)
      cases target with
      | nil => simp [hz]
      | named r =>
          obtain ⟨w, hw⟩ := hnamed r (by simp [EndState.reference?])
          simp [hz, hw]
  | pop transition arguments => cases x.stack.getLast? <;> rfl

/-- A machine that stands in its start state is safe. -/
theorem Validated.safe_standing (h : m.validate = .ok v) :
    m.Safe v.standing.current.place v.standing := by
  have hstart := (Machine.validate_eq_ok h).1
  refine Machine.Safe.of_locations fun z hz => ?_
  obtain rfl := List.mem_singleton.mp hz
  exact ⟨hstart, notMem_unreached_of_mem_frontier (List.mem_singleton_self _)⟩

/-- A whole run keeps the invariant. -/
theorem Machine.safe_of_run (hm : m.WellFormed) (h : m.validate = .ok v) {x : Standing}
    (hrun : Relation.ReflTransGen m.Moves v.standing x) :
    m.Safe v.standing.current.place x := by
  induction hrun with
  | refl => exact Validated.safe_standing h
  | tail _ hmove ih => exact ih.moves hm hmove

/-- **Unreachable states are never met.** In every run of a valid machine, of any length and
whichever guards fire, no state that is listed as unreachable is ever current or on the stack,
and every guard of the current state and of its default state can fire next. -/
theorem run_avoids_unreachable (hbuilt : m.Built) (hvalid : m.validate = .ok v) {x : Standing}
    (hrun : Relation.ReflTransGen m.Moves v.standing x) :
    (∀ p ∈ v.unreachable, p ≠ x.current.place ∧ ∀ y ∈ x.stack, p ≠ y.place) ∧
      ∀ g ∈ Machine.guardsAt x.current.1 x.current.2, ∃ y, m.after? g x = some y ∧ m.Moves x y := by
  have hsafe := Machine.safe_of_run hbuilt.wellFormed hvalid hrun
  constructor
  · rw [(Machine.validate_eq_ok hvalid).2.2]
    intro p hp
    refine ⟨?_, fun y hy => ?_⟩
    · rintro rfl
      exact hsafe.taken x.current List.mem_cons_self hp
    · rintro rfl
      exact hsafe.taken y (List.mem_cons_of_mem _ hy) hp
  · intro g hg
    obtain ⟨y, hy⟩ := Option.isSome_iff_exists.mp
      (Machine.isSome_after? hvalid (hsafe.states x.current List.mem_cons_self) hg)
    exact ⟨y, hy, .fire hg hy⟩

end

/-! ### A lodge -/

/-- The guard that goes from the desk to the room, to return later. -/
def lodgeRing : Guard :=
  .make "" (.push .nil (.unqualified "Room")) 1 []

/-- At the desk, one can ring. -/
def lodgeDesk : State :=
  { className := "Desk", transitions := [{ name := "ring", guards := [lodgeRing] }] }

/-- From the room, one returns. -/
def lodgeRoom : State :=
  { className := "Room"
    transitions := [{ name := "leave", guards := [.make "" (.pop none []) 2 []] }] }

/-- Nothing leads to the attic. -/
def lodgeAttic : State := { className := "Attic" }

/-- The map of the lodge. -/
def lodgeMap : Map :=
  { name := "Lodge", states := [lodgeDesk, lodgeRoom, lodgeAttic] }

/-- A lodge with a desk, a room and an attic. -/
def lodge : Machine :=
  Machine.setStart { context := "Porter", maps := [lodgeMap] } "Lodge::Desk" 0

/-- The lodge can be put together. -/
theorem lodge_built : lodge.Built := by
  have hdesk : lodgeDesk.Built :=
    .addTransition (.new "Desk" 0) (.addGuard (.new "ring" 0) (.make "" _ 1 _) rfl) rfl
  have hroom : lodgeRoom.Built :=
    .addTransition (.new "Room" 0) (.addGuard (.new "leave" 0) (.make "" _ 2 _) rfl) rfl
  have hone : (Map.mk "Lodge" 0 [lodgeDesk] none).Built :=
    .addState (.new "Lodge" 0) hdesk
      (Map.addState_eq_ok_iff.mpr (.inr ⟨by decide, by decide, rfl⟩))
  have htwo : (Map.mk "Lodge" 0 [lodgeDesk, lodgeRoom] none).Built :=
    .addState hone hroom (Map.addState_eq_ok_iff.mpr (.inr ⟨by decide, by decide, rfl⟩))
  have hmap : lodgeMap.Built :=
    .addState htwo (.new "Attic" 0)
      (Map.addState_eq_ok_iff.mpr (.inr ⟨by decide, by decide, rfl⟩))
  exact .setStart "Lodge::Desk" 0 (.addMap (.new "Porter") hmap rfl)

/-- From the desk one gets to the room, with the desk on the stack, and not to the attic, which
is listed. -/
theorem lodge_run_avoids_attic :
    ∃ v, lodge.Built ∧ lodge.validate = .ok v ∧ v.unreachable = [⟨"Lodge", "Attic"⟩] ∧
      ∃ x : Standing, Relation.ReflTransGen lodge.Moves v.standing x ∧
        x.current.place = ⟨"Lodge", "Room"⟩ ∧ x.stack.map Location.place = [⟨"Lodge", "Desk"⟩] ∧
        ∀ p ∈ v.unreachable, p ≠ x.current.place ∧ ∀ y ∈ x.stack, p ≠ y.place := by
  have hparts : lodge.validate.toOption.map (fun v => (v.startMap, v.startState, v.unreachable)) =
      some (lodgeMap, lodgeDesk, [⟨"Lodge", "Attic"⟩]) := by
    decide +kernel
  obtain ⟨v, hv, hparts⟩ := Option.map_eq_some_iff.mp hparts
  obtain ⟨hmap, hstate, hlisted⟩ : v.startMap = lodgeMap ∧ v.startState = lodgeDesk ∧
      v.unreachable = [⟨"Lodge", "Attic"⟩] := by
    simpa using hparts
  have hvalid : lodge.validate = .ok v := toOption_eq_some_iff.mp hv
  let x : Standing := { current := (lodgeMap, lodgeRoom), stack := [(lodgeMap, lodgeDesk)] }
  have hrun : Relation.ReflTransGen lodge.Moves v.standing x := by
    have hresolve : lodge.resolve? (.unqualified "Room") "Lodge" = some (lodgeMap, lodgeRoom) := by
      decide +kernel
    have hring : lodge.after? lodgeRing { current := (lodgeMap, lodgeDesk) } = some x := by
      have hname : lodgeMap.name = "Lodge" := rfl
      simp only [Machine.after?, lodgeRing, Guard.make, hname, hresolve]
      rfl
    rw [Validated.standing, hmap, hstate]
    exact .single (.fire List.mem_cons_self hring)
  exact ⟨v, lodge_built, hvalid, hlisted, x, hrun, by decide, by decide,
    (run_avoids_unreachable lodge_built hvalid hrun).1⟩

end StateMachine
