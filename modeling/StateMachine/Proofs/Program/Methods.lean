import StateMachine.Proofs.Program.Parts

/-!
# The Transitions with a Method

There is one method for each name that a transition other than `Default` is declared with.
The transitions of a machine are sorted by signature, so those of one name stand next to
each other, and it is enough to compare neighbours to know that no name has two signatures.

## Main results

* `publicTransitions_eq_ok_iff`: when the transitions have methods, and which ones do.
* `nodup_map_name_publicTransitions`: each name has **one method**.
* `exists_mem_publicTransitions`: each declared name has a method, whose parameters have the
  types of **every** declaration of that name.
* `Method.ofTransition_eq_ok_iff`: what a method is made of.
-/

namespace StateMachine.Program

/-! ### Overloads -/

/-- Where no transition is overloaded, sorted transitions have increasing names. -/
theorem pairwise_name_of_overloads {ts : List Transition} (hnone : overloads ts = [])
    (hsorted : ts.Pairwise fun a b => a.compareSignature b = .lt) :
    ts.Pairwise fun a b => compare a.name b.name = .lt := by
  induction ts with
  | nil => exact .nil
  | cons t rest ih =>
      cases rest with
      | nil => exact List.pairwise_singleton _ _
      | cons u rest =>
          obtain ⟨hfirst, hrest⟩ := List.pairwise_cons.mp hsorted
          unfold overloads at hnone
          split_ifs at hnone with hname
          have htail := ih hnone hrest
          have hlt : compare t.name u.name = .lt := by
            have hle : t.signatureLe u = true := by
              unfold Transition.signatureLe
              rw [hfirst u List.mem_cons_self]
              rfl
            have hne : compare t.name u.name ≠ .eq := fun heq =>
              hname (Std.compare_eq_iff_eq.mp heq)
            have hisLE := Transition.name_le_of_signatureLe hle
            cases hcmp : compare t.name u.name <;> simp_all
          refine List.pairwise_cons.mpr ⟨fun w hw => ?_, htail⟩
          rcases List.mem_cons.mp hw with rfl | hmem
          · exact hlt
          · exact Std.TransCmp.lt_trans hlt ((List.pairwise_cons.mp htail).1 w hmem)

/-- Increasing names are distinct. -/
theorem nodup_map_name_of_pairwise {ts : List Transition}
    (h : ts.Pairwise fun a b => compare a.name b.name = .lt) :
    (ts.map Transition.name).Nodup := by
  refine List.pairwise_map.mpr (h.imp ?_)
  intro a b hlt heq
  have hself : compare b.name b.name = .eq := Std.ReflCmp.compare_self
  rw [heq, hself] at hlt
  cases hlt

/-! ### Public transitions -/

/-- A state has no `Default` transition with parameters. -/
theorem defaultWithParameters?_eq_none_iff {s : State} :
    defaultWithParameters? s = none ↔
      ∀ t ∈ s.transitions, t.name = State.defaultTransition → t.parameters = [] := by
  simp [defaultWithParameters?, List.find?_eq_none]

/-- **Which transitions have methods**: all but `Default`, provided that no `Default`
transition takes parameters, no transition is overloaded and none has a reserved name. -/
theorem publicTransitions_eq_ok_iff {m : Machine} {ts : List Transition} :
    publicTransitions m = .ok ts ↔
      ts = m.transitions.filter (fun t => t.name ≠ State.defaultTransition) ∧
        (∀ map ∈ m.maps, ∀ s ∈ map.allStates, ∀ t ∈ s.transitions,
          t.name = State.defaultTransition → t.parameters = []) ∧
        overloads ts = [] ∧ ∀ t ∈ ts, t.name ∉ reservedNames := by
  have hdefault : (m.maps.flatMap Map.allStates).findSome? defaultWithParameters? = none ↔
      ∀ map ∈ m.maps, ∀ s ∈ map.allStates, ∀ t ∈ s.transitions,
        t.name = State.defaultTransition → t.parameters = [] := by
    simp only [List.findSome?_eq_none_iff, List.mem_flatMap,
      defaultWithParameters?_eq_none_iff]
    exact ⟨fun h map hmap s hs => h s ⟨map, hmap, hs⟩,
      fun h s ⟨map, hmap, hs⟩ => h map hmap s hs⟩
  unfold publicTransitions
  rw [← hdefault]
  cases (m.maps.flatMap Map.allStates).findSome? defaultWithParameters? with
  | some t => simp
  | none =>
      simp only [true_and]
      constructor
      · intro h
        split at h
        · cases h
        · next hoverloads =>
            split at h
            · cases h
            · next hreserved =>
                obtain rfl := Except.ok.inj h
                simp only [List.find?_eq_none, List.contains_iff_mem] at hreserved
                exact ⟨rfl, hoverloads, hreserved⟩
      · rintro ⟨rfl, hoverloads, hreserved⟩
        have hfind : (m.transitions.filter fun t => t.name ≠ State.defaultTransition).find?
            (fun t => reservedNames.contains t.name) = none := by
          simpa only [List.find?_eq_none, List.contains_iff_mem] using hreserved
        rw [hoverloads, hfind]

/-- Transitions with the same parameter types have as many parameters. -/
theorem length_parameters_of_types {t u : Transition}
    (h : t.parameterTypes = u.parameterTypes) : t.parameters.length = u.parameters.length := by
  simpa [Transition.parameterTypes] using congrArg List.length h

section

variable {m : Machine} {ts : List Transition}

/-- No `Default` transition of a machine with methods takes parameters. -/
theorem parameters_eq_nil_of_default (h : publicTransitions m = .ok ts) {map : Map}
    (hmap : map ∈ m.maps) {s : State} (hs : s ∈ map.allStates) {t : Transition}
    (ht : t ∈ s.transitions) (hname : t.name = State.defaultTransition) :
    t.parameters = [] :=
  (publicTransitions_eq_ok_iff.mp h).2.1 map hmap s hs t ht hname

/-- **One method for each name.** -/
theorem nodup_map_name_publicTransitions (h : publicTransitions m = .ok ts) :
    (ts.map Transition.name).Nodup := by
  obtain ⟨rfl, -, hoverloads, -⟩ := publicTransitions_eq_ok_iff.mp h
  exact nodup_map_name_of_pairwise
    (pairwise_name_of_overloads hoverloads ((pairwise_mergeTransitions _).filter _))

/-- Each declared name but `Default` has a method, with parameters of the declared types. -/
theorem exists_mem_publicTransitions (h : publicTransitions m = .ok ts) {map : Map}
    (hmap : map ∈ m.maps) {s : State} (hs : s ∈ map.allStates) {t : Transition}
    (ht : t ∈ s.transitions) (hname : t.name ≠ State.defaultTransition) :
    ∃ u ∈ ts, u.name = t.name ∧ u.parameterTypes = t.parameterTypes := by
  obtain ⟨rfl, -, -, -⟩ := publicTransitions_eq_ok_iff.mp h
  obtain ⟨u, hu, huname, hutypes⟩ := Machine.exists_mem_transitions hmap hs ht
  exact ⟨u, List.mem_filter.mpr ⟨hu, by simpa [huname] using hname⟩, huname, hutypes⟩

/-- A transition with a method has the parameter types of every declaration of its name. -/
theorem parameterTypes_of_mem_publicTransitions (h : publicTransitions m = .ok ts)
    {u : Transition} (hu : u ∈ ts) {map : Map} (hmap : map ∈ m.maps) {s : State}
    (hs : s ∈ map.allStates) {t : Transition} (ht : t ∈ s.transitions)
    (hname : t.name = u.name) : t.parameterTypes = u.parameterTypes := by
  have hpublic : u.name ≠ State.defaultTransition := by
    obtain ⟨rfl, -, -, -⟩ := publicTransitions_eq_ok_iff.mp h
    simpa using (List.mem_filter.mp hu).2
  obtain ⟨u', hu', huname, hutypes⟩ :=
    exists_mem_publicTransitions h hmap hs ht (hname ▸ hpublic)
  obtain rfl : u' = u :=
    List.inj_on_of_nodup_map (nodup_map_name_publicTransitions h) hu' hu (huname.trans hname)
  exact hutypes.symm

/-- **All declarations of a name agree**: those of a transition with a method have the same
number of parameters. -/
theorem length_parameters_of_name (h : publicTransitions m = .ok ts) {map map' : Map}
    (hmap : map ∈ m.maps) (hmap' : map' ∈ m.maps) {s s' : State} (hs : s ∈ map.allStates)
    (hs' : s' ∈ map'.allStates) {t t' : Transition} (ht : t ∈ s.transitions)
    (ht' : t' ∈ s'.transitions) (hname : t.name = t'.name)
    (hpublic : t'.name ≠ State.defaultTransition) :
    t.parameters.length = t'.parameters.length := by
  obtain ⟨u, hu, huname, hutypes⟩ := exists_mem_publicTransitions h hmap' hs' ht' hpublic
  have htypes := parameterTypes_of_mem_publicTransitions h hu hmap hs ht
    (hname.trans huname.symm)
  exact length_parameters_of_types (htypes.trans hutypes)

/-- A transition with a method is declared. -/
theorem exists_of_mem_publicTransitions (h : publicTransitions m = .ok ts) {u : Transition}
    (hu : u ∈ ts) :
    u.name ≠ State.defaultTransition ∧
      ∃ map ∈ m.maps, ∃ s ∈ map.allStates, u ∈ s.transitions := by
  obtain ⟨rfl, -, -, -⟩ := publicTransitions_eq_ok_iff.mp h
  obtain ⟨hmem, hname⟩ := List.mem_filter.mp hu
  exact ⟨by simpa using hname, Machine.exists_of_mem_transitions hmem⟩

end

/-! ### Methods -/

/-- A method has the name and the parameters of its transition, and an arm for each state. -/
theorem Method.ofTransition_eq_ok_iff {m : Machine} {t : Transition} {method : Method} :
    Method.ofTransition m t = .ok method ↔
      method.transition = t.name ∧
        Emission.name "transition name" t.name t.line = .ok method.ident ∧
        Binding.ofTransition t = .ok method.parameters ∧
        m.states.mapM (fun (map, s) =>
          Arm.ofState t (method.parameters.map Binding.name) map s) = .ok method.arms := by
  simp only [Method.ofTransition, bind_eq_ok_iff, pure, Except.pure, Except.ok.injEq]
  constructor
  · rintro ⟨ident, hident, parameters, hparameters, arms, harms, rfl⟩
    exact ⟨rfl, hident, hparameters, harms⟩
  · rintro ⟨htransition, hident, hparameters, harms⟩
    exact ⟨method.ident, hident, method.parameters, hparameters, method.arms, harms,
      by rw [← htransition]⟩

/-- What it takes to make all methods. -/
theorem Method.ofMachine_eq_ok_iff {m : Machine} {methods : List Method} :
    Method.ofMachine m = .ok methods ↔
      ∃ ts, publicTransitions m = .ok ts ∧ ts.mapM (Method.ofTransition m) = .ok methods := by
  simp only [Method.ofMachine, bind_eq_ok_iff]

/-- The methods of a machine have the names of the transitions with a method. -/
theorem Method.map_transition_of_mapM {m : Machine} {ts : List Transition}
    {methods : List Method} (hok : ts.mapM (Method.ofTransition m) = .ok methods) :
    methods.map Method.transition = ts.map Transition.name :=
  map_eq_of_mapM_eq_ok hok fun _ _ _ hmethod => (Method.ofTransition_eq_ok_iff.mp hmethod).1

/-- **The methods of a machine have distinct names.** -/
theorem Method.nodup_map_transition {m : Machine} {methods : List Method}
    (hok : Method.ofMachine m = .ok methods) : (methods.map Method.transition).Nodup := by
  obtain ⟨ts, hts, hmethods⟩ := Method.ofMachine_eq_ok_iff.mp hok
  rw [Method.map_transition_of_mapM hmethods]
  exact nodup_map_name_publicTransitions hts

/-- The arms of a method stand for the places of the machine. -/
theorem Method.map_place_arms {m : Machine} {t : Transition} {method : Method}
    (hok : Method.ofTransition m t = .ok method) :
    method.arms.map (·.variant.place) = m.places :=
  map_eq_of_mapM_eq_ok (Method.ofTransition_eq_ok_iff.mp hok).2.2.2
    fun _ _ _ harm => (Arm.ofState_eq_ok harm).1

end StateMachine.Program
