import StateMachine.Program.Basic
import StateMachine.Proofs.Except
import StateMachine.Proofs.Machine.Signature

/-!
# The Parts of a Program

Each part of a program comes from one part of the machine. This module says from which:
variants, arms and dispatches from the ordinary states, methods from the transitions with a
method, handlers from declared or derived transitions. Parts are known by keys, and the keys
of a program's parts can be read off the machine.

## Main results

* `Validated.makes_of_program`: a program is made part by part.
* `Handler.mem_ofMap_iff`: the handlers of a map come from its transitions, declared and
  derived, and from nothing else.
* `Validated.Makes.map_key_handlers`, `Machine.WellFormed.nodup_handlerKeys`: there is **one
  handler for each key** of the machine.
* `Machine.WellFormed.nodup_places`: there is one place for each ordinary state.
-/

namespace StateMachine

open Program

/-! ### Keys -/

namespace Program

/-- What a handler is known by: a transition in a state of a map. -/
structure HandlerKey where
  map : String
  stateClass : String
  transition : String
  deriving DecidableEq, Repr

/-- The key in the name of a handler. -/
def HandlerName.key (n : HandlerName) : HandlerKey :=
  ⟨n.map, n.stateClass, n.transition⟩

end Program

/-- The key of the handler of a transition in a state. -/
def Map.handlerKey (map : Map) (s : State) (t : Transition) : HandlerKey :=
  ⟨map.name, s.className, t.name⟩

/-- The key of a derived handler. -/
def Map.derivedKey (map : Map) (t : Transition) : HandlerKey :=
  ⟨map.name, State.defaultName, t.name⟩

/-- The keys of the handlers of a state. -/
def Map.stateKeys (map : Map) (s : State) : List HandlerKey :=
  s.transitions.map (map.handlerKey s)

/-- The keys of the handlers of a map: those of the default state, the derived ones, and those
of the ordinary states. -/
def Map.handlerKeys (map : Map) : List HandlerKey :=
  map.defaultState.toList.flatMap map.stateKeys ++
    map.undefinedDefaultTransitions.map map.derivedKey ++ map.states.flatMap map.stateKeys

/-- The keys of the handlers of a machine. -/
def Machine.handlerKeys (m : Machine) : List HandlerKey :=
  m.maps.flatMap Map.handlerKeys

/-! ### One step of the generation at a time -/

/-- A variant stands for the place of its state. -/
theorem Program.Variant.place_of_ofState {map : Map} {s : State} {line : Nat} {v : Variant}
    (h : Variant.ofState map s line = .ok v) : v.place = .ofState map s := by
  simp only [Variant.ofState, bind_eq_ok_iff, pure, Except.pure, Except.ok.injEq] at h
  obtain ⟨ident, -, rfl⟩ := h
  rfl

/-- A handler name is made of what it is made from. -/
theorem Program.HandlerName.make_eq_ok_iff {map stateClass transition : String} {line : Nat}
    {n : HandlerName} :
    HandlerName.make map stateClass transition line = .ok n ↔
      n.key = ⟨map, stateClass, transition⟩ ∧
        Rust.Ident.ofHandler map stateClass transition line = .ok n.ident := by
  simp only [HandlerName.make, bind_eq_ok_iff, mapError_eq_ok_iff, pure, Except.pure,
    Except.ok.injEq]
  constructor
  · rintro ⟨ident, hident, rfl⟩
    exact ⟨rfl, hident⟩
  · rintro ⟨hkey, hident⟩
    obtain ⟨_, _, _, ident⟩ := n
    cases hkey
    exact ⟨ident, hident, rfl⟩

/-- There are as many bindings as parameters. -/
theorem Program.Binding.length_ofTransition {t : Transition} {bs : List Binding}
    (h : Binding.ofTransition t = .ok bs) : bs.length = t.parameters.length :=
  (mapM_eq_ok_iff.mp h).length_eq.symm

/-- The handler of a declared transition has a branch for each guard, and forwards when no
guard is unconditional. -/
theorem Program.Handler.ofTransition_eq_ok_iff {m : Machine} {o : OutputOptions} {map : Map}
    {s : State} {t : Transition} {h : Handler} :
    Handler.ofTransition m o map s t = .ok h ↔
      HandlerName.make map.name s.className t.name t.line = .ok h.name ∧
        Binding.ofTransition t = .ok h.parameters ∧
        ∃ bs otherwise, h.body = .branches bs otherwise ∧
          t.guards.mapM (Branch.ofGuard m o map s t) = .ok bs ∧
          ((t.hasUnconditionalGuard = true ∧ otherwise = none) ∨
            ∃ f, t.hasUnconditionalGuard = false ∧ otherwise = some f ∧
              Forward.ofState map s t (h.parameters.map Binding.name) = .ok f) := by
  simp only [Handler.ofTransition, bind_eq_ok_iff]
  constructor
  · rintro ⟨name, hname, parameters, hparameters, bs, hbs, hrest⟩
    split_ifs at hrest with hguard
    · cases hrest
      exact ⟨hname, hparameters, bs, none, rfl, hbs, .inl ⟨hguard, rfl⟩⟩
    · simp only [bind_eq_ok_iff, map_eq_ok_iff] at hrest
      obtain ⟨_, ⟨f, hf, rfl⟩, ⟨⟩⟩ := hrest
      exact ⟨hname, hparameters, bs, some f, rfl, hbs,
        .inr ⟨f, eq_false_of_ne_true hguard, rfl, hf⟩⟩
  · rintro ⟨hname, hparameters, bs, otherwise, hbody, hbs, hotherwise⟩
    obtain ⟨name, parameters, body⟩ := h
    cases hbody
    refine ⟨name, hname, parameters, hparameters, bs, hbs, ?_⟩
    rcases hotherwise with ⟨hguard, rfl⟩ | ⟨f, hguard, rfl, hf⟩
    · rw [if_pos hguard]
      rfl
    · rw [if_neg (by simp [hguard]), bind_eq_ok_iff]
      exact ⟨some f, map_eq_ok_iff.mpr ⟨f, hf, rfl⟩, rfl⟩

/-- A derived handler only forwards. -/
theorem Program.Handler.forwarding_eq_ok_iff {map : Map} {t : Transition} {h : Handler} :
    Handler.forwarding map t = .ok h ↔
      HandlerName.make map.name State.defaultName t.name t.line = .ok h.name ∧
        Binding.ofTransition t = .ok h.parameters ∧
        h.body = .forward (.ofDefault t.name) := by
  simp only [Handler.forwarding, bind_eq_ok_iff, pure, Except.pure, Except.ok.injEq]
  constructor
  · rintro ⟨name, hname, parameters, hparameters, rfl⟩
    exact ⟨hname, hparameters, rfl⟩
  · rintro ⟨hname, hparameters, hbody⟩
    exact ⟨h.name, hname, h.parameters, hparameters, by rw [← hbody]⟩

/-- An arm stands for the place of its state, and calls the handler of the class that handles
the transition there. -/
theorem Program.Arm.ofState_eq_ok {t : Transition} {arguments : List Rust.Ident} {map : Map}
    {s : State} {a : Arm} (h : Arm.ofState t arguments map s = .ok a) :
    a.variant.place = .ofState map s ∧
      match handlingClass? map s t.name with
      | some stateClass => ∃ n, HandlerName.make map.name stateClass t.name t.line = .ok n ∧
          a.forward = .handler n arguments
      | none => a.forward = .defaultTransition := by
  simp only [Arm.ofState, bind_eq_ok_iff] at h
  obtain ⟨variant, hvariant, h⟩ := h
  have hplace := Variant.place_of_ofState hvariant
  cases hclass : handlingClass? map s t.name with
  | none =>
      simp only [hclass, pure, Except.pure, Except.ok.injEq] at h
      subst h
      exact ⟨hplace, rfl⟩
  | some stateClass =>
      simp only [hclass, bind_eq_ok_iff, pure, Except.pure, Except.ok.injEq] at h
      obtain ⟨n, hn, rfl⟩ := h
      exact ⟨hplace, n, hn, rfl⟩

/-- The dispatch of a state stands for its place, and calls the handler of the class that
handles `Default` there. -/
theorem Program.Dispatch.ofState_eq_ok {map : Map} {s : State} {d : Dispatch}
    (h : Dispatch.ofState map s = .ok d) :
    d.variant.place = .ofState map s ∧
      match handlingClass? map s State.defaultTransition with
      | some stateClass => ∃ n,
          HandlerName.make map.name stateClass State.defaultTransition s.line = .ok n ∧
            d.fallback = .handler n []
      | none => d.fallback = .unhandled := by
  simp only [Dispatch.ofState, bind_eq_ok_iff] at h
  obtain ⟨variant, hvariant, entry, -, exit, -, h⟩ := h
  have hplace := Variant.place_of_ofState hvariant
  cases hclass : handlingClass? map s State.defaultTransition with
  | none =>
      simp only [hclass, pure, Except.pure, Except.ok.injEq] at h
      subst h
      exact ⟨hplace, rfl⟩
  | some stateClass =>
      simp only [hclass, bind_eq_ok_iff, pure, Except.pure, Except.ok.injEq] at h
      obtain ⟨n, hn, rfl⟩ := h
      exact ⟨hplace, n, hn, rfl⟩

/-- The commands of a dispatch are those of its state. -/
theorem Program.Dispatch.commands_of_ofState {map : Map} {s : State} {d : Dispatch}
    (h : Dispatch.ofState map s = .ok d) :
    Command.ofActions s.entryActions = .ok d.entry ∧
      Command.ofActions s.exitActions = .ok d.exit := by
  simp only [Dispatch.ofState, bind_eq_ok_iff] at h
  obtain ⟨variant, -, entry, hentry, exit, hexit, h⟩ := h
  cases hclass : handlingClass? map s State.defaultTransition with
  | none =>
      simp only [hclass, pure, Except.pure, Except.ok.injEq] at h
      subst h
      exact ⟨hentry, hexit⟩
  | some stateClass =>
      simp only [hclass, bind_eq_ok_iff, pure, Except.pure, Except.ok.injEq] at h
      obtain ⟨n, -, rfl⟩ := h
      exact ⟨hentry, hexit⟩

/-! ### Handlers -/

/-- What it takes to make the handlers of a map. -/
theorem Program.Handler.ofMap_eq_ok_iff {m : Machine} {o : OutputOptions} {map : Map}
    {hs : List Handler} :
    Handler.ofMap m o map = .ok hs ↔
      ∃ declared derived ordinary,
        map.defaultState.toList.mapM (Handler.ofState m o map) = .ok declared ∧
        map.undefinedDefaultTransitions.mapM (Handler.forwarding map) = .ok derived ∧
        map.states.mapM (Handler.ofState m o map) = .ok ordinary ∧
        hs = declared.flatten ++ derived ++ ordinary.flatten := by
  simp only [Handler.ofMap, bind_eq_ok_iff, pure, Except.pure, Except.ok.injEq]
  constructor
  · rintro ⟨declared, hdeclared, derived, hderived, ordinary, hordinary, rfl⟩
    exact ⟨declared, derived, ordinary, hdeclared, hderived, hordinary, rfl⟩
  · rintro ⟨declared, derived, ordinary, hdeclared, hderived, hordinary, rfl⟩
    exact ⟨declared, hdeclared, derived, hderived, ordinary, hordinary, rfl⟩

/-- The handlers of several states come from the transitions of these states. -/
theorem Program.Handler.mem_flatten_ofState {m : Machine} {o : OutputOptions} {map : Map}
    {ss : List State} {hss : List (List Handler)}
    (hok : ss.mapM (Handler.ofState m o map) = .ok hss) {h : Handler} :
    h ∈ hss.flatten ↔
      ∃ s ∈ ss, ∃ t ∈ s.transitions, Handler.ofTransition m o map s t = .ok h := by
  simp only [List.mem_flatten, mem_of_mapM_eq_ok hok]
  constructor
  · rintro ⟨hs, ⟨s, hs_mem, hs_ok⟩, hmem⟩
    obtain ⟨t, ht, hh⟩ := (mem_of_mapM_eq_ok hs_ok).mp hmem
    exact ⟨s, hs_mem, t, ht, hh⟩
  · rintro ⟨s, hs_mem, t, ht, hh⟩
    obtain ⟨hs, -, hs_ok⟩ := exists_of_mapM_eq_ok hok hs_mem
    exact ⟨hs, ⟨s, hs_mem, hs_ok⟩, (mem_of_mapM_eq_ok hs_ok).mpr ⟨t, ht, hh⟩⟩

/-- **Where the handlers of a map come from**: from the transitions that its states declare,
and from its derived transitions. -/
theorem Program.Handler.mem_ofMap_iff {m : Machine} {o : OutputOptions} {map : Map}
    {hs : List Handler} (hok : Handler.ofMap m o map = .ok hs) {h : Handler} :
    h ∈ hs ↔
      (∃ s ∈ map.allStates, ∃ t ∈ s.transitions, Handler.ofTransition m o map s t = .ok h) ∨
        ∃ t ∈ map.undefinedDefaultTransitions, Handler.forwarding map t = .ok h := by
  obtain ⟨declared, derived, ordinary, hdeclared, hderived, hordinary, rfl⟩ :=
    Handler.ofMap_eq_ok_iff.mp hok
  simp only [List.mem_append, Handler.mem_flatten_ofState hdeclared,
    Handler.mem_flatten_ofState hordinary, mem_of_mapM_eq_ok hderived, Map.allStates]
  constructor
  · rintro ((⟨s, hs, ht⟩ | hforward) | ⟨s, hs, ht⟩)
    · exact .inl ⟨s, .inl hs, ht⟩
    · exact .inr hforward
    · exact .inl ⟨s, .inr hs, ht⟩
  · rintro (⟨s, hs | hs, ht⟩ | hforward)
    · exact .inl (.inl ⟨s, hs, ht⟩)
    · exact .inr ⟨s, hs, ht⟩
    · exact .inl (.inr hforward)

/-- Each transition that a state of a map declares has a handler. -/
theorem Program.Handler.exists_of_ofMap {m : Machine} {o : OutputOptions} {map : Map}
    {hs : List Handler} (hok : Handler.ofMap m o map = .ok hs) {s : State}
    (hs_mem : s ∈ map.allStates) {t : Transition} (ht : t ∈ s.transitions) :
    ∃ h, Handler.ofTransition m o map s t = .ok h := by
  obtain ⟨declared, derived, ordinary, hdeclared, -, hordinary, -⟩ :=
    Handler.ofMap_eq_ok_iff.mp hok
  obtain ⟨_, hstate⟩ : ∃ hs', Handler.ofState m o map s = .ok hs' := by
    rcases List.mem_append.mp hs_mem with hdefault | hstates
    · obtain ⟨hs', -, hstate⟩ := exists_of_mapM_eq_ok hdeclared hdefault
      exact ⟨hs', hstate⟩
    · obtain ⟨hs', -, hstate⟩ := exists_of_mapM_eq_ok hordinary hstates
      exact ⟨hs', hstate⟩
  obtain ⟨h, -, hh⟩ := exists_of_mapM_eq_ok hstate ht
  exact ⟨h, hh⟩

/-- The keys of the handlers of a state are read off the state. -/
theorem Program.Handler.map_key_ofState {m : Machine} {o : OutputOptions} {map : Map}
    {s : State} {hs : List Handler} (hok : Handler.ofState m o map s = .ok hs) :
    hs.map (·.name.key) = map.stateKeys s :=
  map_eq_of_mapM_eq_ok hok fun _ _ _ hh =>
    (HandlerName.make_eq_ok_iff.mp (Handler.ofTransition_eq_ok_iff.mp hh).1).1

/-- The keys of the handlers of several states are read off the states. -/
theorem Program.Handler.map_key_flatten_ofState {m : Machine} {o : OutputOptions} {map : Map}
    {ss : List State} {hss : List (List Handler)}
    (hok : ss.mapM (Handler.ofState m o map) = .ok hss) :
    hss.flatten.map (·.name.key) = ss.flatMap map.stateKeys := by
  rw [List.map_flatten, List.flatMap_def]
  exact congrArg List.flatten
    (map_eq_of_mapM_eq_ok hok fun _ _ _ hh => Handler.map_key_ofState hh)

/-- The keys of the handlers of a map are read off the map. -/
theorem Program.Handler.map_key_ofMap {m : Machine} {o : OutputOptions} {map : Map}
    {hs : List Handler} (hok : Handler.ofMap m o map = .ok hs) :
    hs.map (·.name.key) = map.handlerKeys := by
  obtain ⟨declared, derived, ordinary, hdeclared, hderived, hordinary, rfl⟩ :=
    Handler.ofMap_eq_ok_iff.mp hok
  have hkeys : derived.map (·.name.key) = map.undefinedDefaultTransitions.map map.derivedKey :=
    map_eq_of_mapM_eq_ok hderived fun _ _ _ hh =>
      (HandlerName.make_eq_ok_iff.mp (Handler.forwarding_eq_ok_iff.mp hh).1).1
  rw [List.map_append, List.map_append, Handler.map_key_flatten_ofState hdeclared, hkeys,
    Handler.map_key_flatten_ofState hordinary, Map.handlerKeys]

/-! ### Programs -/

/-- Validation does not change the machine. -/
theorem Machine.machine_of_validate {m : Machine} {v : Validated} (h : m.validate = .ok v) :
    v.machine = m := by
  unfold Machine.validate at h
  split at h
  · cases h
  · cases h
  · split at h
    · cases h
    · split at h
      · cases h
      · obtain rfl := Except.ok.inj h
        rfl

/-- How the parts of a program were made from a validated machine. -/
structure Validated.Makes (v : Validated) (o : OutputOptions) (p : Program) : Prop where
  variants : v.machine.states.mapM
    (fun (map, s) => Variant.ofState map s s.line) = .ok p.variants
  methods : Method.ofMachine v.machine = .ok p.methods
  handlers : ∃ hss, v.machine.maps.mapM (Handler.ofMap v.machine o) = .ok hss ∧
    p.handlers = hss.flatten
  dispatch : v.machine.states.mapM (fun (map, s) => Dispatch.ofState map s) = .ok p.dispatch
  isSerial : p.isSerial = o.serial

/-- A program is made part by part. -/
theorem Validated.makes_of_program {v : Validated} {o : OutputOptions} {p : Program}
    (h : v.program o = .ok p) : v.Makes o p := by
  simp only [Validated.program, bind_eq_ok_iff, pure, Except.pure, Except.ok.injEq] at h
  obtain ⟨_, -, _, -, _, -, _, -, variants, hvariants, methods, hmethods, handlers, hhandlers,
    dispatch, hdispatch, _, -, rfl⟩ := h
  exact ⟨hvariants, hmethods, ⟨handlers, hhandlers, rfl⟩, hdispatch, rfl⟩

namespace Validated.Makes

variable {v : Validated} {o : OutputOptions} {p : Program}

/-- The variants stand for the places of the machine. -/
theorem map_place_variants (h : v.Makes o p) :
    p.variants.map Variant.place = v.machine.places :=
  map_eq_of_mapM_eq_ok h.variants fun _ _ _ hv => Variant.place_of_ofState hv

/-- The dispatches stand for the places of the machine. -/
theorem map_place_dispatch (h : v.Makes o p) :
    p.dispatch.map (·.variant.place) = v.machine.places :=
  map_eq_of_mapM_eq_ok h.dispatch fun _ _ _ hd => (Dispatch.ofState_eq_ok hd).1

/-- **The keys of the handlers are read off the machine.** -/
theorem map_key_handlers (h : v.Makes o p) :
    p.handlers.map (·.name.key) = v.machine.handlerKeys := by
  obtain ⟨hss, hok, hflatten⟩ := h.handlers
  rw [hflatten, List.map_flatten, Machine.handlerKeys, List.flatMap_def]
  exact congrArg List.flatten
    (map_eq_of_mapM_eq_ok hok fun _ _ _ hh => Handler.map_key_ofMap hh)

/-- Where the handlers of a program come from. -/
theorem mem_handlers_iff (h : v.Makes o p) {handler : Handler} :
    handler ∈ p.handlers ↔ ∃ map ∈ v.machine.maps,
      (∃ s ∈ map.allStates, ∃ t ∈ s.transitions,
        Handler.ofTransition v.machine o map s t = .ok handler) ∨
      ∃ t ∈ map.undefinedDefaultTransitions, Handler.forwarding map t = .ok handler := by
  obtain ⟨hss, hok, hflatten⟩ := h.handlers
  rw [hflatten, List.mem_flatten]
  constructor
  · rintro ⟨hs, hhs, hmem⟩
    obtain ⟨map, hmap, hok⟩ := (mem_of_mapM_eq_ok hok).mp hhs
    exact ⟨map, hmap, (Handler.mem_ofMap_iff hok).mp hmem⟩
  · rintro ⟨map, hmap, hfrom⟩
    obtain ⟨hs, hhs, hok⟩ := exists_of_mapM_eq_ok hok hmap
    exact ⟨hs, hhs, (Handler.mem_ofMap_iff hok).mpr hfrom⟩

/-- Each declared transition has a handler. -/
theorem exists_handler (h : v.Makes o p) {map : Map} (hmap : map ∈ v.machine.maps) {s : State}
    (hs : s ∈ map.allStates) {t : Transition} (ht : t ∈ s.transitions) :
    ∃ handler ∈ p.handlers, Handler.ofTransition v.machine o map s t = .ok handler := by
  obtain ⟨hss, hok, -⟩ := h.handlers
  obtain ⟨_, -, hofMap⟩ := exists_of_mapM_eq_ok hok hmap
  obtain ⟨handler, hhandler⟩ := Handler.exists_of_ofMap hofMap hs ht
  exact ⟨handler, h.mem_handlers_iff.mpr ⟨map, hmap, .inl ⟨s, hs, t, ht, hhandler⟩⟩, hhandler⟩

/-- Each derived transition has a handler. -/
theorem exists_derived_handler (h : v.Makes o p) {map : Map} (hmap : map ∈ v.machine.maps)
    {t : Transition} (ht : t ∈ map.undefinedDefaultTransitions) :
    ∃ handler ∈ p.handlers, Handler.forwarding map t = .ok handler := by
  obtain ⟨hss, hok, -⟩ := h.handlers
  obtain ⟨_, -, hofMap⟩ := exists_of_mapM_eq_ok hok hmap
  obtain ⟨_, _, _, -, hderived, -, -⟩ := Handler.ofMap_eq_ok_iff.mp hofMap
  obtain ⟨handler, -, hhandler⟩ := exists_of_mapM_eq_ok hderived ht
  exact ⟨handler, h.mem_handlers_iff.mpr ⟨map, hmap, .inr ⟨t, ht, hhandler⟩⟩, hhandler⟩

end Validated.Makes

/-! ### Keys are distinct -/

/-- The default state has the reserved name. -/
theorem State.className_of_isDefault {s : State} (h : s.isDefault = true) :
    s.className = State.defaultName := by
  simpa [State.isDefault] using h

/-- An ordinary state does not have the reserved name. -/
theorem State.className_ne_of_ordinary {s : State} (h : s.isDefault = false) :
    s.className ≠ State.defaultName := by
  simpa [State.isDefault] using h

/-- The places of a machine, map by map. -/
theorem Machine.places_eq_flatMap (m : Machine) :
    m.places = m.maps.flatMap fun map => map.states.map (Place.ofState map) := by
  simp [Machine.places, Machine.states, List.map_flatMap, Function.comp_def]

/-- **One place for each ordinary state.** -/
theorem Machine.WellFormed.nodup_places {m : Machine} (hm : m.WellFormed) :
    m.places.Nodup := by
  rw [Machine.places_eq_flatMap, List.nodup_flatMap]
  constructor
  · intro map hmap
    have hnames := (hm.maps map hmap).names_nodup
    refine List.Nodup.of_map Place.state ?_
    rwa [List.map_map]
  · refine (List.pairwise_map.mp hm.names_nodup).imp ?_
    intro map map' hne p hp hp'
    obtain ⟨s, -, rfl⟩ := List.mem_map.mp hp
    obtain ⟨s', -, heq⟩ := List.mem_map.mp hp'
    exact hne (congrArg Place.map heq).symm

/-- The keys of the handlers of a state are distinct. -/
theorem State.WellFormed.nodup_stateKeys {s : State} (hs : s.WellFormed) (map : Map) :
    (map.stateKeys s).Nodup := by
  refine List.Nodup.of_map HandlerKey.transition ?_
  rw [Map.stateKeys, List.map_map]
  exact hs.names_nodup

/-- A key of a handler of a state has the class of the state. -/
theorem Map.mem_stateKeys {map : Map} {s : State} {k : HandlerKey} (h : k ∈ map.stateKeys s) :
    k.map = map.name ∧ k.stateClass = s.className ∧ ∃ t ∈ s.transitions, t.name = k.transition := by
  obtain ⟨t, ht, rfl⟩ := List.mem_map.mp h
  exact ⟨rfl, rfl, t, ht, rfl⟩

/-- The keys of the handlers of a map are distinct. -/
theorem Map.WellFormed.nodup_handlerKeys {map : Map} (hm : map.WellFormed) :
    map.handlerKeys.Nodup := by
  -- declared by the default state, derived from it, or of another class
  have hdefault : (map.defaultState.toList.flatMap map.stateKeys).Nodup := by
    cases hslot : map.defaultState with
    | none => exact .nil
    | some d =>
        have hd : d ∈ map.allStates := by simp [Map.allStates, hslot]
        simpa using (hm.states d hd).nodup_stateKeys map
  have hderived : (map.undefinedDefaultTransitions.map map.derivedKey).Nodup := by
    refine List.Nodup.of_map HandlerKey.transition ?_
    rw [List.map_map]
    exact map.nodup_map_name_undefinedDefaultTransitions
  have hordinary : (map.states.flatMap map.stateKeys).Nodup := by
    rw [List.nodup_flatMap]
    refine ⟨fun s hs => (hm.states s (List.mem_append_right _ hs)).nodup_stateKeys map, ?_⟩
    refine (List.pairwise_map.mp hm.names_nodup).imp_of_mem ?_
    intro s s' hs hs' hne k hk hk'
    rw [State.instanceName_of_ordinary (hm.ordinary s hs),
      State.instanceName_of_ordinary (hm.ordinary s' hs')] at hne
    exact hne ((Map.mem_stateKeys hk).2.1.symm.trans (Map.mem_stateKeys hk').2.1)
  refine (hdefault.append hderived ?_).append hordinary ?_
  · intro k hk hk'
    obtain ⟨d, hd, hk⟩ := List.mem_flatMap.mp hk
    obtain ⟨-, -, t, ht, htk⟩ := Map.mem_stateKeys hk
    obtain ⟨u, hu, rfl⟩ := List.mem_map.mp hk'
    have hdefines : map.defaultDefines u.name = true :=
      Map.defaultDefines_iff.mpr
        ⟨d, Option.mem_toList.mp hd, State.defines_iff.mpr ⟨t, ht, htk⟩⟩
    rw [(Map.mem_undefinedDefaultTransitions hu).1] at hdefines
    cases hdefines
  · intro k hk hk'
    obtain ⟨s, hs, hks⟩ := List.mem_flatMap.mp hk'
    have hclass : k.stateClass = State.defaultName := by
      rcases List.mem_append.mp hk with hk | hk
      · obtain ⟨d, hd, hk⟩ := List.mem_flatMap.mp hk
        rw [(Map.mem_stateKeys hk).2.1]
        exact State.className_of_isDefault (hm.isDefault d (Option.mem_toList.mp hd))
      · obtain ⟨u, -, rfl⟩ := List.mem_map.mp hk
        rfl
    exact State.className_ne_of_ordinary (hm.ordinary s hs)
      ((Map.mem_stateKeys hks).2.1.symm.trans hclass)

/-- A key of a handler of a map names the map. -/
theorem Map.map_of_mem_handlerKeys {map : Map} {k : HandlerKey} (h : k ∈ map.handlerKeys) :
    k.map = map.name := by
  rcases List.mem_append.mp h with h | h
  · rcases List.mem_append.mp h with h | h
    · obtain ⟨s, -, hk⟩ := List.mem_flatMap.mp h
      exact (Map.mem_stateKeys hk).1
    · obtain ⟨t, -, rfl⟩ := List.mem_map.mp h
      rfl
  · obtain ⟨s, -, hk⟩ := List.mem_flatMap.mp h
    exact (Map.mem_stateKeys hk).1

/-- A key is made of a map, of the class of one of its states or the default class, and of a
transition of one of its states. -/
theorem Machine.exists_of_mem_handlerKeys {m : Machine} {k : HandlerKey}
    (h : k ∈ m.handlerKeys) :
    ∃ map ∈ m.maps, k.map = map.name ∧
      (k.stateClass = State.defaultName ∨ ∃ s ∈ map.allStates, k.stateClass = s.className) ∧
      ∃ s ∈ map.allStates, ∃ t ∈ s.transitions, t.name = k.transition := by
  obtain ⟨map, hmap, hk⟩ := List.mem_flatMap.mp h
  refine ⟨map, hmap, Map.map_of_mem_handlerKeys hk, ?_⟩
  have hstate : ∀ s ∈ map.allStates, k ∈ map.stateKeys s →
      (k.stateClass = State.defaultName ∨ ∃ s ∈ map.allStates, k.stateClass = s.className) ∧
        ∃ s ∈ map.allStates, ∃ t ∈ s.transitions, t.name = k.transition := by
    intro s hs hk
    obtain ⟨-, hclass, ht⟩ := Map.mem_stateKeys hk
    exact ⟨.inr ⟨s, hs, hclass⟩, s, hs, ht⟩
  rcases List.mem_append.mp hk with hk | hk
  · rcases List.mem_append.mp hk with hk | hk
    · obtain ⟨s, hs, hk⟩ := List.mem_flatMap.mp hk
      exact hstate s (List.mem_append_left _ hs) hk
    · obtain ⟨t, ht, rfl⟩ := List.mem_map.mp hk
      obtain ⟨-, s, hs, ht⟩ := Map.mem_undefinedDefaultTransitions ht
      exact ⟨.inl rfl, s, List.mem_append_right _ hs, t, ht, rfl⟩
  · obtain ⟨s, hs, hk⟩ := List.mem_flatMap.mp hk
    exact hstate s (List.mem_append_right _ hs) hk

/-- **One handler for each key.** -/
theorem Machine.WellFormed.nodup_handlerKeys {m : Machine} (hm : m.WellFormed) :
    m.handlerKeys.Nodup := by
  rw [Machine.handlerKeys, List.nodup_flatMap]
  refine ⟨fun map hmap => (hm.maps map hmap).nodup_handlerKeys, ?_⟩
  refine (List.pairwise_map.mp hm.names_nodup).imp ?_
  intro map map' hne k hk hk'
  exact hne ((Map.map_of_mem_handlerKeys hk).symm.trans (Map.map_of_mem_handlerKeys hk'))

end StateMachine
