import StateMachine.Proofs.Reachability

/-!
# Searching a Graph

The search for unreachable states asks for the successors of places, and there is an answer for
each place. It can as well be made in a graph that was put together before: one node for each
state, kept in an index by the place of the state, and one edge for each state that a guard
names. Then it depends on the index. A state that a guard names is passed over if it has no node,
but an edge has to begin at a node, and so has the search.

Names without a node stand for a fault of whoever put the graph together, so they are no defects.
`Machine.validate?` has nothing to say about a machine in which there are any. There are none.

## Main results

* `Machine.edgesFrom?_eq_some`: every edge begins at a node.
* `unreached_congr`: what a search leaves over depends on the successors of unseen places only,
  and not on their order.
* `Machine.WellFormed.search?_eq_some`, `Machine.WellFormed.validate?_eq_some`: the search in the
  graph, and validation with it, **always have an answer**, and it is that of the search along
  successors.
-/

namespace StateMachine

namespace Machine

/-- The node of a place. Only places of states have one. -/
def node? (m : Machine) (p : Place) : Option Place :=
  m.places.find? fun q => q = p

/-- The nodes that a guard in the map `map` names. -/
def targets (m : Machine) (map : Map) (g : Guard) : List Place :=
  (m.guardPlaces map g).filterMap m.node?

/-- The edges that begin at a state, unless it has no node. -/
def edgesFrom? (m : Machine) (x : Location) : Option (List (Place × Place)) := do
  let source ← m.node? x.place
  return ((guardsAt x.1 x.2).flatMap (m.targets x.1)).map fun target => (source, target)

/-- The edges of the graph. -/
def edges? (m : Machine) : Option (List (Place × Place)) := do
  let edges ← m.states.mapM m.edgesFrom?
  return edges.flatten

/-- Where the edges lead that begin at a node. -/
def neighbors (edges : List (Place × Place)) (p : Place) : List Place :=
  (edges.filter fun e => e.1 = p).map Prod.snd

/-- The places that a search in the graph leaves over, unless a place has no node that has to
have one. -/
def search? (m : Machine) (start : Place) : Option (List Place) := do
  let edges ← m.edges?
  let first ← m.node? start
  return unreached (neighbors edges) m.places [first]

/-- Validation, with a search in the graph. -/
def validate? (m : Machine) : Option (Except Defect Validated) :=
  match m.validate with
  | .error defect => some (.error defect)
  | .ok v =>
    (m.search? v.standing.current.place).map fun unreachable => .ok { v with unreachable }

variable {m : Machine}

/-! ### The index -/

/-- The place of a state is listed. -/
theorem place_mem_places {x : Location} (hx : x ∈ m.states) : x.place ∈ m.places :=
  List.mem_map.mpr ⟨x, hx, rfl⟩

/-- **Every state has a node.** -/
theorem node?_eq_some {p : Place} (h : p ∈ m.places) : m.node? p = some p := by
  cases hnode : m.node? p with
  | none => simpa using List.find?_eq_none.mp hnode p h
  | some q =>
      have hq : q = p := by simpa using List.find?_some hnode
      rw [hq]

/-- What a guard names has a node. -/
theorem guardPlaces_subset_places (map : Map) (g : Guard) : m.guardPlaces map g ⊆ m.places := by
  intro p hp
  obtain ⟨r, -, hr⟩ := List.mem_filterMap.mp hp
  obtain ⟨x, hx, rfl⟩ := Option.map_eq_some_iff.mp hr
  exact place_mem_places (mem_states_of_resolve? hx)

/-- So no name is passed over. -/
theorem targets_eq : m.targets = m.guardPlaces := by
  funext map g
  rw [targets, List.filterMap_congr (g := some), List.filterMap_some]
  exact fun p hp => node?_eq_some (guardPlaces_subset_places map g hp)

/-- The edges that begin at a state. -/
def edgesFrom (m : Machine) (x : Location) : List (Place × Place) :=
  ((guardsAt x.1 x.2).flatMap (m.guardPlaces x.1)).map fun target => (x.place, target)

/-- Every edge begins at a node. -/
theorem edgesFrom?_eq_some {x : Location} (hx : x ∈ m.states) :
    m.edgesFrom? x = some (m.edgesFrom x) := by
  rw [edgesFrom?, node?_eq_some (place_mem_places hx), targets_eq]
  rfl

/-- So there is a graph. -/
theorem edges?_eq_some : m.edges? = some (m.states.flatMap m.edgesFrom) := by
  have hedges : ∀ states ⊆ m.states, states.mapM m.edgesFrom? = some (states.map m.edgesFrom) := by
    intro states hstates
    induction states with
    | nil => rfl
    | cons x rest ih =>
        obtain ⟨hx, hrest⟩ := List.cons_subset.mp hstates
        rw [List.mapM_cons, edgesFrom?_eq_some hx, ih hrest]
        rfl
  rw [edges?, hedges m.states (List.Subset.refl _)]
  rfl

end Machine

/-! ### The search -/

section

variable {successors successors' : Place → List Place} {unseen frontier frontier' : List Place}

/-- What a frontier takes out does not depend on its order. -/
theorem inside_congr (h : ∀ q, q ∈ frontier ↔ q ∈ frontier') :
    inside frontier unseen = inside frontier' unseen := by
  simp only [inside, h]

/-- Nor does what it leaves. -/
theorem outside_congr (h : ∀ q, q ∈ frontier ↔ q ∈ frontier') :
    outside frontier unseen = outside frontier' unseen := by
  simp only [outside, h]

/-- **What a search leaves over** depends on where unseen places lead to, in whatever order. -/
theorem unreached_congr
    (hsuccessors : ∀ p ∈ unseen, ∀ q, q ∈ successors p ↔ q ∈ successors' p)
    (hfrontier : ∀ q, q ∈ frontier ↔ q ∈ frontier') :
    unreached successors unseen frontier = unreached successors' unseen frontier' := by
  fun_induction unreached successors unseen frontier generalizing frontier' with
  | case1 unseen frontier hfewer ih =>
      rw [outside_congr hfrontier] at hfewer ih ⊢
      conv_rhs => rw [unreached, if_pos hfewer]
      refine ih (fun p hp => hsuccessors p (List.mem_of_mem_filter hp)) fun q => ?_
      rw [inside_congr hfrontier, List.mem_flatMap, List.mem_flatMap]
      exact exists_congr fun p => and_congr_right fun hp =>
        hsuccessors p (List.mem_of_mem_filter hp) q
  | case2 unseen frontier hfewer =>
      rw [outside_congr hfrontier] at hfewer
      rw [unreached, if_neg hfewer]

end

namespace Machine

variable {m : Machine}

/-- **The edges from a state lead to its successors.** -/
theorem WellFormed.mem_neighbors_iff (hm : m.WellFormed) {p q : Place} (hp : p ∈ m.places) :
    q ∈ neighbors (m.states.flatMap m.edgesFrom) p ↔ q ∈ m.successors p := by
  obtain ⟨x, hx, rfl⟩ := List.mem_map.mp hp
  change q ∈ neighbors _ (Location.place x) ↔ q ∈ m.successors (Location.place x)
  have hsuccessors : m.successors (Location.place x) =
      (guardsAt x.1 x.2).flatMap (m.guardPlaces x.1) := by
    unfold successors
    rw [hm.resolve?_place hx]
  rw [hsuccessors]
  constructor
  · intro hq
    obtain ⟨⟨source, target⟩, hedge, rfl⟩ := List.mem_map.mp hq
    obtain ⟨hedge, hsource⟩ := List.mem_filter.mp hedge
    obtain ⟨y, hy, hedge⟩ := List.mem_flatMap.mp hedge
    obtain ⟨target', htarget, hpair⟩ := List.mem_map.mp hedge
    obtain ⟨rfl, rfl⟩ := Prod.mk.inj hpair
    -- the edge begins at the place of `y`, and this is the place of `x` alone
    have hplace : Location.place y = Location.place x := of_decide_eq_true hsource
    have hsame := hm.resolve?_place hy
    rw [hplace, hm.resolve?_place hx] at hsame
    obtain rfl := Option.some.inj hsame
    exact htarget
  · intro hq
    have hedge : (Location.place x, q) ∈ m.states.flatMap m.edgesFrom :=
      List.mem_flatMap.mpr ⟨x, hx, List.mem_map.mpr ⟨q, hq, rfl⟩⟩
    exact List.mem_map.mpr ⟨_, List.mem_filter.mpr ⟨hedge, decide_eq_true rfl⟩, rfl⟩

/-- **The search in the graph has an answer**, that of the search along successors. -/
theorem WellFormed.search?_eq_some (hm : m.WellFormed) {start : Place} (h : start ∈ m.places) :
    m.search? start = some (m.unreachablePlaces start) := by
  rw [search?, edges?_eq_some, node?_eq_some h]
  exact congrArg some (unreached_congr (fun p hp q => hm.mem_neighbors_iff hp) fun _ => .rfl)

/-- **So has validation with a search in the graph.** -/
theorem WellFormed.validate?_eq_some (hm : m.WellFormed) : m.validate? = some m.validate := by
  unfold validate?
  cases hv : m.validate with
  | error defect => rfl
  | ok v =>
      obtain ⟨hstart, -, hunreachable⟩ := validate_eq_ok hv
      simp only [hm.search?_eq_some (place_mem_places hstart), Option.map_some, ← hunreachable]

end Machine

end StateMachine
