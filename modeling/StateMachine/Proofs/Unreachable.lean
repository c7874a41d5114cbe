import StateMachine.Proofs.Graph
import StateMachine.Proofs.Validation

/-!
# Unreachable States, Exactly

A state leads to another if a guard that may be taken in it names the other. This is a relation on
the states of a machine (`Machine.Edge`), and a state can be reached if a path of edges leads to
it. The search for unreachable states knows neither states nor paths: it takes places out of a
list, layer by layer. This module shows that it leaves over the states without a path from the
start state, all of them and no others, and that validation gives one warning of each.

## Proof strategy

A search errs in two ways. It takes out too much if a place that is taken out has no path; but
each layer comes from the one before along an edge (`exists_path_of_notMem_unreached`). It takes
out too little if a path leads out of what was taken out; but this is closed under edges
(`notMem_unreached_of_path`). Then paths between places are paths between states, since each
place belongs to one state.

## Main results

* `mem_unreached_iff`: the search leaves over what no path from the frontier leads to.
* `Machine.WellFormed.path_iff`: a path of edges leads from state to state where the search sees
  one from place to place.
* `Machine.run_validateWarning_ok`: validation gives one warning of each place that it lists, in
  order.
* `unreachable_states_exact`: what a **valid machine** lists is exactly what has no path.
-/

namespace StateMachine

open Relation (ReflTransGen)

/-! ### What the search takes out -/

section

variable {successors : Place → List Place} {unseen frontier : List Place} {p q : Place}

/-- A place leads to its successors. -/
def Follows (successors : Place → List Place) (p q : Place) : Prop :=
  q ∈ successors p

/-- What is left over stays in its order. -/
theorem unreached_sublist : (unreached successors unseen frontier).Sublist unseen := by
  fun_induction unreached successors unseen frontier with
  | case1 unseen frontier _ ih => exact ih.trans List.filter_sublist
  | case2 unseen frontier _ => exact .refl unseen

/-- **Whatever is taken out has a path** from the frontier. -/
theorem exists_path_of_notMem_unreached (hp : p ∈ unseen)
    (htaken : p ∉ unreached successors unseen frontier) :
    ∃ q ∈ frontier, ReflTransGen (Follows successors) q p := by
  fun_induction unreached successors unseen frontier with
  | case1 unseen frontier _ ih =>
      by_cases hfrontier : p ∈ frontier
      · exact ⟨p, hfrontier, .refl⟩
      · -- a later layer took it out, and that layer follows this one
        have hlater : p ∈ outside frontier unseen := by
          simpa [outside] using ⟨hp, hfrontier⟩
        obtain ⟨r, hr, hpath⟩ := ih hlater htaken
        obtain ⟨q, hq, hstep⟩ := List.mem_flatMap.mp hr
        have hq : q ∈ frontier := by
          simpa using List.of_mem_filter hq
        exact ⟨q, hq, .head hstep hpath⟩
  | case2 unseen frontier _ => exact absurd hp htaken

/-- **Whatever has a path is taken out**, if no path leaves the unseen places. -/
theorem notMem_unreached_of_path (hclosed : ∀ a ∈ unseen, successors a ⊆ unseen)
    (hq : q ∈ frontier) (hunseen : q ∈ unseen) (hpath : ReflTransGen (Follows successors) q p) :
    p ∈ unseen ∧ p ∉ unreached successors unseen frontier := by
  induction hpath with
  | refl => exact ⟨hunseen, notMem_unreached_of_mem_frontier hq⟩
  | tail _ hstep ih =>
      obtain ⟨hmem, htaken⟩ := ih
      exact ⟨hclosed _ hmem hstep, notMem_unreached_of_successor hmem htaken hstep⟩

/-- **The search leaves over exactly what has no path.** -/
theorem mem_unreached_iff (hclosed : ∀ a ∈ unseen, successors a ⊆ unseen) (hq : q ∈ unseen)
    (hp : p ∈ unseen) :
    p ∈ unreached successors unseen [q] ↔ ¬ ReflTransGen (Follows successors) q p := by
  constructor
  · intro hleft hpath
    exact (notMem_unreached_of_path hclosed (List.mem_singleton_self q) hq hpath).2 hleft
  · intro hnone
    by_contra htaken
    obtain ⟨q', hq', hpath⟩ := exists_path_of_notMem_unreached hp htaken
    rw [List.mem_singleton.mp hq'] at hpath
    exact hnone hpath

end

/-! ### Edges -/

/-- The references that a transfer names: the end state of a set or a push, and the state that a
push makes current. A pop names none. -/
inductive Transfer.Names : Transfer → Reference → Prop
  | set (r : Reference) : Names (.set (.named r)) r
  | pushEnd (r pushed : Reference) : Names (.push (.named r) pushed) r
  | pushed (target : EndState) (r : Reference) : Names (.push target r) r

/-- The references of a guard are those that its transfer names. -/
theorem Guard.mem_references_iff {g : Guard} {r : Reference} :
    r ∈ g.references ↔ g.transfer.Names r := by
  obtain ⟨condition, transfer, actions, line⟩ := g
  simp only [references, endReference?, endState?, pushed?]
  constructor
  · intro hr
    rcases List.mem_append.mp hr with hend | hpushed
    · cases transfer with
      | set target =>
          cases target with
          | nil => cases hend
          | named target =>
              obtain rfl := List.mem_singleton.mp hend
              exact .set r
      | push target pushed =>
          cases target with
          | nil => cases hend
          | named target =>
              obtain rfl := List.mem_singleton.mp hend
              exact .pushEnd r pushed
      | pop transition arguments => cases hend
    · cases transfer with
      | set target => cases hpushed
      | push target pushed =>
          obtain rfl := List.mem_singleton.mp hpushed
          exact .pushed target r
      | pop transition arguments => cases hpushed
  · rintro (r | ⟨r, pushed⟩ | ⟨target, r⟩)
    · exact List.mem_append_left _ (List.mem_singleton_self r)
    · exact List.mem_append_left _ (List.mem_singleton_self r)
    · exact List.mem_append_right _ (List.mem_singleton_self r)

namespace Machine

/-- An edge leads from a state to each state that is named by one of its guards, or by a guard of
the default state of its map. -/
inductive Edge (m : Machine) : Location → Location → Prop
  | own {x y : Location} {g : Guard} {r : Reference} (hg : g ∈ x.2.guards)
      (hr : g.transfer.Names r) (hy : m.resolve? r x.1.name = some y) : Edge m x y
  | default {x y : Location} {d : State} {g : Guard} {r : Reference}
      (hd : x.1.defaultState = some d) (hg : g ∈ d.guards) (hr : g.transfer.Names r)
      (hy : m.resolve? r x.1.name = some y) : Edge m x y

variable {m : Machine} {x y : Location}

/-- An edge is a guard that may be taken and what it names. -/
theorem edge_iff :
    m.Edge x y ↔ ∃ g ∈ guardsAt x.1 x.2, ∃ r ∈ g.references, m.resolve? r x.1.name = some y := by
  simp only [Guard.mem_references_iff]
  constructor
  · rintro (⟨hg, hr, hy⟩ | ⟨hd, hg, hr, hy⟩)
    · exact ⟨_, List.mem_append_left _ hg, _, hr, hy⟩
    · have hdefault := List.mem_flatMap.mpr ⟨_, Option.mem_toList.mpr hd, hg⟩
      exact ⟨_, List.mem_append_right _ hdefault, _, hr, hy⟩
  · rintro ⟨g, hg, r, hr, hy⟩
    rcases List.mem_append.mp hg with hown | hdefault
    · exact .own hown hr hy
    · obtain ⟨d, hd, hg⟩ := List.mem_flatMap.mp hdefault
      exact .default (Option.mem_toList.mp hd) hg hr hy

/-- An edge leads to a state of the machine. -/
theorem Edge.mem_states (h : m.Edge x y) : y ∈ m.states := by
  obtain ⟨g, -, r, -, hy⟩ := edge_iff.mp h
  exact mem_states_of_resolve? hy

/-- **The search follows the edges**, by places. -/
theorem WellFormed.mem_successors_iff (hm : m.WellFormed) (hx : x ∈ m.states) {q : Place} :
    q ∈ m.successors x.place ↔ ∃ y, m.Edge x y ∧ y.place = q := by
  constructor
  · intro hq
    unfold successors at hq
    rw [hm.resolve?_place hx] at hq
    obtain ⟨g, hg, hq⟩ := List.mem_flatMap.mp hq
    obtain ⟨r, hr, hq⟩ := List.mem_filterMap.mp hq
    obtain ⟨y, hy, rfl⟩ := Option.map_eq_some_iff.mp hq
    exact ⟨y, edge_iff.mpr ⟨g, hg, r, hr, hy⟩, rfl⟩
  · rintro ⟨y, hedge, rfl⟩
    obtain ⟨g, hg, r, hr, hy⟩ := edge_iff.mp hedge
    exact hm.place_mem_successors hx hg hr hy

/-- A place leads to places of the machine. -/
theorem WellFormed.successors_subset_places (hm : m.WellFormed) :
    ∀ p ∈ m.places, m.successors p ⊆ m.places := by
  intro p hp q hq
  obtain ⟨x, hx, rfl⟩ := List.mem_map.mp hp
  obtain ⟨y, hedge, rfl⟩ := (hm.mem_successors_iff hx).mp hq
  exact place_mem_places hedge.mem_states

/-- Each place belongs to one state. -/
theorem WellFormed.eq_of_place_eq (hm : m.WellFormed) (hx : x ∈ m.states) (hy : y ∈ m.states)
    (h : x.place = y.place) : x = y :=
  List.inj_on_of_nodup_map hm.nodup_places hx hy h

/-! ### Paths -/

/-- A path of edges goes through states, and through their places. -/
theorem WellFormed.path_places (hm : m.WellFormed) (hx : x ∈ m.states)
    (hpath : ReflTransGen m.Edge x y) :
    y ∈ m.states ∧ ReflTransGen (Follows m.successors) x.place y.place := by
  induction hpath with
  | refl => exact ⟨hx, .refl⟩
  | tail _ hedge ih =>
      obtain ⟨hmem, hplaces⟩ := ih
      exact ⟨hedge.mem_states, hplaces.tail ((hm.mem_successors_iff hmem).mpr ⟨_, hedge, rfl⟩)⟩

/-- A path through places goes through the states that are there. -/
theorem WellFormed.exists_path (hm : m.WellFormed) (hx : x ∈ m.states) {p : Place}
    (hpath : ReflTransGen (Follows m.successors) x.place p) :
    ∃ y ∈ m.states, Location.place y = p ∧ ReflTransGen m.Edge x y := by
  induction hpath with
  | refl => exact ⟨x, hx, rfl, .refl⟩
  | tail _ hstep ih =>
      obtain ⟨y, hy, rfl, hpath⟩ := ih
      obtain ⟨z, hedge, rfl⟩ := (hm.mem_successors_iff hy).mp hstep
      exact ⟨z, hedge.mem_states, rfl, hpath.tail hedge⟩

/-- **Paths between states are paths between their places.** -/
theorem WellFormed.path_iff (hm : m.WellFormed) (hx : x ∈ m.states) (hy : y ∈ m.states) :
    ReflTransGen (Follows m.successors) x.place y.place ↔ ReflTransGen m.Edge x y := by
  constructor
  · intro hplaces
    obtain ⟨z, hz, hplace, hpath⟩ := hm.exists_path hx hplaces
    rwa [hm.eq_of_place_eq hz hy hplace] at hpath
  · intro hpath
    exact (hm.path_places hx hpath).2

/-- The search lists the states without a path, each once and in order. -/
theorem WellFormed.exists_unreachable (hm : m.WellFormed) (hx : x ∈ m.states) :
    ∃ listed : List Location, listed.Sublist m.states ∧
      m.unreachablePlaces x.place = listed.map Location.place ∧
      ∀ y ∈ m.states, y ∈ listed ↔ ¬ ReflTransGen m.Edge x y := by
  obtain ⟨listed, hsublist, hlisted⟩ : ∃ listed : List Location, listed.Sublist m.states ∧
      m.unreachablePlaces x.place = listed.map Location.place :=
    List.sublist_map_iff.mp unreached_sublist
  refine ⟨listed, hsublist, hlisted, fun y hy => ?_⟩
  have hmem : y ∈ listed ↔ Location.place y ∈ m.unreachablePlaces x.place := by
    rw [hlisted]
    constructor
    · intro hy
      exact List.mem_map_of_mem hy
    · intro hplace
      obtain ⟨z, hz, hplace⟩ := List.mem_map.mp hplace
      rwa [hm.eq_of_place_eq (hsublist.subset hz) hy hplace] at hz
  rw [hmem, unreachablePlaces, mem_unreached_iff hm.successors_subset_places
    (place_mem_places hx) (place_mem_places hy), hm.path_iff hx hy]

end Machine

/-! ### Warnings -/

/-- A loop of warnings gives them one after the other. -/
theorem Warned.run_forM_warn (ps : List Place) (given : List Warning) :
    (ps.forM fun p => Warned.warn (.unreachable p.text)).run.run given =
      (.ok (), given ++ ps.map fun p => .unreachable p.text) := by
  induction ps generalizing given with
  | nil => exact congrArg (Prod.mk _) (List.append_nil given).symm
  | cons p rest ih =>
      have hstep := ih (given ++ [.unreachable p.text])
      rw [List.append_assoc] at hstep
      exact hstep

/-- **Validation warns of what it lists**, after whatever was given before. -/
theorem Machine.run_validateWarning_ok {m : Machine} {v : Validated} (h : m.validate = .ok v)
    (given : List Warning) :
    m.validateWarning.run.run given =
      (.ok v, given ++ v.unreachable.map fun p => .unreachable p.text) := by
  let warnings := v.unreachable.forM fun p => Warned.warn (.unreachable p.text)
  have hloop : warnings.run.run given = _ := Warned.run_forM_warn v.unreachable given
  rw [validateWarning, h]
  change (warnings >>= fun _ => pure v).run.run given = _
  rw [run_bind, hloop]
  rfl

/-! ### Valid machines -/

/-- **Reachability is exact.** A valid machine lists states that are among its ordinary states,
once each and in order of declaration. They are those to which no path of edges leads from the
start state, and no others. They are listed by their qualified names, and validation gives one
warning of each in the same order, after whatever was given before. -/
theorem unreachable_states_exact {m : Machine} {v : Validated} (hbuilt : m.Built)
    (hvalid : m.validate = .ok v) :
    ∃ listed : List Location,
      listed.Sublist m.states ∧ listed.Nodup ∧
      (∀ x ∈ m.states,
        x ∈ listed ↔ ¬ ReflTransGen m.Edge (v.startMap, v.startState) x) ∧
      v.unreachable.map Place.text =
        listed.map (fun x => x.1.name ++ "::" ++ x.2.instanceName) ∧
      ∀ given, m.validateWarning.run.run given =
        (.ok v, given ++ listed.map fun x =>
          .unreachable (x.1.name ++ "::" ++ x.2.instanceName)) := by
  obtain ⟨hstart, -, hunreachable⟩ := Machine.validate_eq_ok hvalid
  obtain ⟨listed, hsublist, hlisted, hexact⟩ := hbuilt.wellFormed.exists_unreachable hstart
  have hplaces : v.unreachable = listed.map Location.place := hunreachable.trans hlisted
  refine ⟨listed, hsublist, hsublist.nodup hbuilt.wellFormed.nodup_states, hexact, ?_,
    fun given => ?_⟩
  · rw [hplaces, List.map_map]
    rfl
  · rw [Machine.run_validateWarning_ok hvalid, hplaces, List.map_map]
    rfl

/-- In the lodge, the attic has no path from the desk, and there is a warning of it. -/
theorem lodge_warns_of_attic :
    ∃ v listed, lodge.Built ∧ lodge.validate = .ok v ∧
      (∀ x ∈ lodge.states, x ∈ listed ↔ ¬ ReflTransGen lodge.Edge (v.startMap, v.startState) x) ∧
      listed = [(lodgeMap, lodgeAttic)] ∧
      lodge.validateWarning.run.run [] = (.ok v, [.unreachable "Lodge::Attic"]) := by
  have hparts : lodge.validate.toOption.map (fun v => v.unreachable.map Place.text) =
      some ["Lodge::Attic"] := by
    decide +kernel
  obtain ⟨v, hv, htexts⟩ := Option.map_eq_some_iff.mp hparts
  have hvalid : lodge.validate = .ok v := toOption_eq_some_iff.mp hv
  obtain ⟨listed, hsublist, -, hexact, hlisted, hwarnings⟩ :=
    unreachable_states_exact lodge_built hvalid
  rw [htexts] at hlisted
  -- of the three states of the lodge, only the attic has this text
  have hattic : listed = [(lodgeMap, lodgeAttic)] := by
    obtain ⟨x, rfl, htext⟩ := List.map_eq_singleton_iff.mp hlisted.symm
    have hx : x ∈ [(lodgeMap, lodgeDesk), (lodgeMap, lodgeRoom), (lodgeMap, lodgeAttic)] :=
      hsublist.subset (List.mem_singleton_self x)
    rcases List.mem_cons.mp hx with rfl | hx
    · exact absurd htext (by decide)
    · rcases List.mem_cons.mp hx with rfl | hx
      · exact absurd htext (by decide)
      · rw [List.mem_singleton.mp hx]
  refine ⟨v, listed, lodge_built, hvalid, hexact, hattic, ?_⟩
  rw [hwarnings [], hattic]
  rfl

end StateMachine
