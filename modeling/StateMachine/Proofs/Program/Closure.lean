import Mathlib.Data.Option.Basic
import StateMachine.Proofs.Program.Dispatch

/-!
# A Program Has the Handlers that it Calls

Handlers are made in three places: for what the default state of a map declares, for what only
its ordinary states declare, and for what these declare. They are called in three other places:
in the arms of methods, where no branch of a handler is taken, and in the dispatcher of `Default`
transitions. Each place decides on its own which handler there is, and reads its name and its
parameters from a declaration of its own. `Forwards` collects the calls, each with the parameters
in whose scope it stands.

## Proof strategy

A call is found a handler by its key: whatever decides on a call shows that the map has a handler
of that key (`Map.Handles`). The names agree because a name is read from its key alone, and the
types agree because all declarations of a name have the same ones
(`parameterTypes_eq_of_name`), so it does not matter which declaration was read.

## Main results

* `Validated.Makes.exists_handler_iff`: **which handlers there are**.
* `Validated.Makes.exists_handler_named`: a name that is read for a handler is its name.
* `Validated.Makes.types_eq_of_transition`: all parts that belong to one transition take
  parameters of the same types.
* `handler_calls_closed`: every handler that is called **is there**, and takes what it is called
  with.
-/

namespace StateMachine

open Program

/-! ### Which handlers a map has -/

/-- The keys of the handlers of a map. -/
inductive Map.Handles (map : Map) : HandlerKey → Prop
  /-- The default state declares the transition. -/
  | default {d : State} {t : Transition} :
      d ∈ map.defaultState → t ∈ d.transitions →
      Handles map ⟨map.name, State.defaultName, t.name⟩
  /-- An ordinary state declares the transition, and the default state does not. -/
  | derived {s : State} {t : Transition} :
      s ∈ map.states → t ∈ s.transitions → map.defaultDefines t.name = false →
      Handles map ⟨map.name, State.defaultName, t.name⟩
  /-- The ordinary state itself declares the transition. -/
  | ordinary {s : State} {t : Transition} :
      s ∈ map.states → t ∈ s.transitions → Handles map ⟨map.name, s.className, t.name⟩

/-- The keys of the handlers of a map are listed, and no others. -/
theorem Map.WellFormed.mem_handlerKeys_iff {map : Map} (hm : map.WellFormed) {k : HandlerKey} :
    k ∈ map.handlerKeys ↔ map.Handles k := by
  constructor
  · intro hk
    rcases List.mem_append.mp hk with hk | hk
    · rcases List.mem_append.mp hk with hk | hk
      · obtain ⟨d, hd, hk⟩ := List.mem_flatMap.mp hk
        obtain ⟨t, ht, rfl⟩ := List.mem_map.mp hk
        have hd := Option.mem_toList.mp hd
        rw [Map.handlerKey, State.className_of_isDefault (hm.isDefault d hd)]
        exact .default hd ht
      · obtain ⟨u, hu, rfl⟩ := List.mem_map.mp hk
        obtain ⟨hundefined, s, hs, hus⟩ := Map.mem_undefinedDefaultTransitions hu
        exact .derived hs hus hundefined
    · obtain ⟨s, hs, hk⟩ := List.mem_flatMap.mp hk
      obtain ⟨t, ht, rfl⟩ := List.mem_map.mp hk
      exact .ordinary hs ht
  · intro hk
    cases hk with
    | @default d t hd ht =>
        refine List.mem_append_left _ (List.mem_append_left _ (List.mem_flatMap.mpr
          ⟨d, Option.mem_toList.mpr hd, List.mem_map.mpr ⟨t, ht, ?_⟩⟩))
        rw [Map.handlerKey, State.className_of_isDefault (hm.isDefault d hd)]
    | @derived s t hs ht hundefined =>
        obtain ⟨u, hu, huname⟩ := Map.exists_mem_undefinedDefaultTransitions hs ht hundefined
        refine List.mem_append_left _ (List.mem_append_right _ (List.mem_map.mpr ⟨u, hu, ?_⟩))
        rw [Map.derivedKey, huname]
    | @ordinary s t hs ht =>
        exact List.mem_append_right _ (List.mem_flatMap.mpr
          ⟨s, hs, List.mem_map.mpr ⟨t, ht, rfl⟩⟩)

/-- A map that has a default handler for a transition has one of the default class. -/
theorem Map.handles_of_hasDefaultHandler {map : Map} {name : String}
    (h : map.hasDefaultHandler name = true) :
    map.Handles ⟨map.name, State.defaultName, name⟩ := by
  cases hdefault : map.defaultDefines name with
  | true =>
      obtain ⟨d, hd, hdefines⟩ := Map.defaultDefines_iff.mp hdefault
      obtain ⟨t, ht, rfl⟩ := State.defines_iff.mp hdefines
      exact .default hd ht
  | false =>
      obtain ⟨u, hu, rfl⟩ := Map.exists_derived h hdefault
      obtain ⟨-, s, hs, hus⟩ := Map.mem_undefinedDefaultTransitions hu
      exact .derived hs hus hdefault

/-- The class that handles a transition in an ordinary state has a handler for it. -/
theorem Map.handles_of_handlingClass? {map : Map} {s : State} (hs : s ∈ map.states)
    {name stateClass : String} (h : handlingClass? map s name = some stateClass) :
    map.Handles ⟨map.name, stateClass, name⟩ := by
  unfold handlingClass? at h
  split_ifs at h with hdefines hdefault
  · obtain rfl := Option.some.inj h
    obtain ⟨t, ht, rfl⟩ := State.defines_iff.mp hdefines
    exact .ordinary hs ht
  · obtain rfl := Option.some.inj h
    exact Map.handles_of_hasDefaultHandler hdefault

/-! ### Names and types do not depend on the line -/

namespace Program

/-- **A handler name is read from its key alone.** -/
theorem HandlerName.eq_of_make {map stateClass transition : String} {line line' : Nat}
    {n n' : HandlerName} (h : HandlerName.make map stateClass transition line = .ok n)
    (h' : HandlerName.make map stateClass transition line' = .ok n') : n = n' := by
  obtain ⟨hkey, hident⟩ := HandlerName.make_eq_ok_iff.mp h
  obtain ⟨hkey', hident'⟩ := HandlerName.make_eq_ok_iff.mp h'
  rw [Rust.Ident.ofHandler, Rust.Ident.read, Rust.readBy_eq_ok_iff] at hident hident'
  have hsame : n.ident = n'.ident := Option.some.inj (hident.symm.trans hident')
  obtain ⟨_, _, _, _⟩ := n
  obtain ⟨_, _, _, _⟩ := n'
  cases hkey
  cases hkey'
  cases hsame
  rfl

/-- The types of bindings are read from the types of the parameters. -/
theorem Binding.map_type_ofTransition {t : Transition} {bs : List Binding}
    (h : Binding.ofTransition t = .ok bs) :
    bs.map (fun b => some b.type) =
      t.parameterTypes.map fun type => (Rust.Fragment.type type 0).toOption := by
  rw [Transition.parameterTypes, List.map_map]
  refine map_eq_of_mapM_eq_ok h fun p _ b hb => ?_
  simp only [Binding.ofParameter, bind_eq_ok_iff, mapError_eq_ok_iff, pure, Except.pure,
    Except.ok.injEq] at hb
  obtain ⟨_, -, type, htype, rfl⟩ := hb
  exact (toOption_eq_some_iff.mpr (Rust.readBy_eq_ok_of_readBy htype)).symm

/-- Parameters of the same types are bound with the same types. -/
theorem Binding.map_type_eq {t u : Transition} {bs cs : List Binding}
    (htypes : t.parameterTypes = u.parameterTypes) (ht : Binding.ofTransition t = .ok bs)
    (hu : Binding.ofTransition u = .ok cs) : bs.map Binding.type = cs.map Binding.type := by
  have hsome : (bs.map Binding.type).map some = (cs.map Binding.type).map some := by
    rw [List.map_map, List.map_map]
    exact (Binding.map_type_ofTransition ht).trans
      (htypes ▸ (Binding.map_type_ofTransition hu).symm)
  exact List.map_injective_iff.mpr (Option.some_injective _) hsome

/-! ### Calls -/

/-- The forwards of a program, each with the parameters in whose scope it stands. -/
inductive Forwards (p : Program) : List Binding → Forward → Prop
  /-- An arm of a method. -/
  | arm {method : Method} {a : Arm} :
      method ∈ p.methods → a ∈ method.arms → Forwards p method.parameters a.forward
  /-- Where a handler takes none of its branches. -/
  | otherwise {h : Handler} {bs : List Branch} {f : Forward} :
      h ∈ p.handlers → h.body = .branches bs (some f) → Forwards p h.parameters f
  /-- A handler that only forwards. -/
  | derived {h : Handler} {f : Forward} :
      h ∈ p.handlers → h.body = .forward f → Forwards p h.parameters f
  /-- An arm of the dispatcher of `Default` transitions. -/
  | dispatch {d : Dispatch} : d ∈ p.dispatch → Forwards p [] d.fallback

/-- All declarations of a name take parameters of the same types, those of `Default` none. -/
theorem parameterTypes_eq_of_name {m : Machine} {ts : List Transition}
    (h : publicTransitions m = .ok ts) {map map' : Map} (hmap : map ∈ m.maps)
    (hmap' : map' ∈ m.maps) {s s' : State} (hs : s ∈ map.allStates) (hs' : s' ∈ map'.allStates)
    {t t' : Transition} (ht : t ∈ s.transitions) (ht' : t' ∈ s'.transitions)
    (hname : t.name = t'.name) : t.parameterTypes = t'.parameterTypes := by
  by_cases hdefault : t'.name = State.defaultTransition
  · have hnone := parameters_eq_nil_of_default h hmap hs ht (hname.trans hdefault)
    have hnone' := parameters_eq_nil_of_default h hmap' hs' ht' hdefault
    rw [Transition.parameterTypes, Transition.parameterTypes, hnone, hnone']
  · obtain ⟨u, hu, huname, hutypes⟩ := exists_mem_publicTransitions h hmap' hs' ht' hdefault
    exact (parameterTypes_of_mem_publicTransitions h hu hmap hs ht
      (hname.trans huname.symm)).trans hutypes

end Program

namespace Validated.Makes

variable {v : Validated} {o : OutputOptions} {p : Program} (hmakes : v.Makes o p)
include hmakes

/-- **Which handlers a program has**: one for each key that a map has a handler of. -/
theorem exists_handler_iff (hwf : v.machine.WellFormed) {k : HandlerKey} :
    (∃ h ∈ p.handlers, h.name.key = k) ↔ ∃ map ∈ v.machine.maps, map.Handles k := by
  have hmem : k ∈ p.handlers.map (·.name.key) ↔ k ∈ v.machine.handlerKeys := by
    rw [hmakes.map_key_handlers]
  rw [List.mem_map] at hmem
  rw [hmem, Machine.handlerKeys, List.mem_flatMap]
  constructor
  · rintro ⟨map, hmap, hk⟩
    exact ⟨map, hmap, (hwf.maps map hmap).mem_handlerKeys_iff.mp hk⟩
  · rintro ⟨map, hmap, hk⟩
    exact ⟨map, hmap, (hwf.maps map hmap).mem_handlerKeys_iff.mpr hk⟩

/-- A handler is made from a declaration of its transition. -/
theorem exists_declaration {h : Handler} (hh : h ∈ p.handlers) :
    ∃ t, v.machine.Declares t ∧ Binding.ofTransition t = .ok h.parameters ∧
      ∃ map stateClass line, HandlerName.make map stateClass t.name line = .ok h.name := by
  obtain ⟨map, hmap, ⟨s, hs, t, ht, hok⟩ | ⟨t, ht, hok⟩⟩ := hmakes.mem_handlers_iff.mp hh
  · obtain ⟨hname, hbs, -⟩ := Handler.ofTransition_eq_ok_iff.mp hok
    exact ⟨t, ⟨map, hmap, s, hs, ht⟩, hbs, _, _, _, hname⟩
  · obtain ⟨hname, hbs, -⟩ := Handler.forwarding_eq_ok_iff.mp hok
    obtain ⟨-, s, hs, hts⟩ := Map.mem_undefinedDefaultTransitions ht
    exact ⟨t, ⟨map, hmap, s, List.mem_append_right _ hs, hts⟩, hbs, _, _, _, hname⟩

/-- A name that is read for a handler of a map is the name of a handler. -/
theorem exists_handler_named (hwf : v.machine.WellFormed) {map : Map}
    (hmap : map ∈ v.machine.maps) {stateClass transition : String} {line : Nat} {n : HandlerName}
    (hhandles : map.Handles ⟨map.name, stateClass, transition⟩)
    (hn : HandlerName.make map.name stateClass transition line = .ok n) :
    ∃ h ∈ p.handlers, h.name = n := by
  obtain ⟨h, hh, hkey⟩ := (hmakes.exists_handler_iff hwf).mpr ⟨map, hmap, hhandles⟩
  obtain ⟨t, -, -, map', stateClass', line', hname⟩ := hmakes.exists_declaration hh
  obtain ⟨rfl, rfl, rfl⟩ := HandlerKey.mk.inj
    ((HandlerName.make_eq_ok_iff.mp hname).1.symm.trans hkey)
  exact ⟨h, hh, HandlerName.eq_of_make hname hn⟩

/-- **The types of a handler are those of every declaration of its transition.** -/
theorem types_eq_of_transition {h : Handler} (hh : h ∈ p.handlers) {t : Transition}
    (ht : v.machine.Declares t) (htransition : h.name.transition = t.name) {bs : List Binding}
    (hbs : Binding.ofTransition t = .ok bs) :
    h.parameters.map Binding.type = bs.map Binding.type := by
  obtain ⟨u, ⟨map, hmap, s, hs, hu⟩, hparameters, _, _, _, hname⟩ := hmakes.exists_declaration hh
  obtain ⟨map', hmap', s', hs', ht'⟩ := ht
  obtain ⟨ts, hts, -⟩ := Method.ofMachine_eq_ok_iff.mp hmakes.methods
  have huname : h.name.transition = u.name :=
    congrArg HandlerKey.transition (HandlerName.make_eq_ok_iff.mp hname).1
  exact Binding.map_type_eq
    (parameterTypes_eq_of_name hts hmap hmap' hs hs' hu ht' (huname.symm.trans htransition))
    hparameters hbs

/-- A call is served when it names a handler that a map has, and hands on the parameters of a
declaration of the handler's transition. -/
theorem serves (hwf : v.machine.WellFormed) {map : Map} (hmap : map ∈ v.machine.maps)
    {stateClass transition : String} {line : Nat} {n : HandlerName}
    (hhandles : map.Handles ⟨map.name, stateClass, transition⟩)
    (hn : HandlerName.make map.name stateClass transition line = .ok n) :
    ∃ h ∈ p.handlers, h.name = n ∧
      ∀ t bs, v.machine.Declares t → t.name = transition → Binding.ofTransition t = .ok bs →
        h.parameters.map Binding.type = bs.map Binding.type := by
  obtain ⟨h, hh, rfl⟩ := hmakes.exists_handler_named hwf hmap hhandles hn
  have htransition : h.name.transition = transition :=
    congrArg HandlerKey.transition (HandlerName.make_eq_ok_iff.mp hn).1
  exact ⟨h, hh, rfl, fun t bs ht hname hbs =>
    hmakes.types_eq_of_transition hh ht (htransition.trans hname.symm) hbs⟩

/-- The arms of methods call handlers that are there. -/
theorem arm_served (hwf : v.machine.WellFormed) {method : Method} (hmethod : method ∈ p.methods)
    {a : Arm} (ha : a ∈ method.arms) {n : HandlerName} {args : List Rust.Ident}
    (hforward : a.forward = .handler n args) :
    args = method.parameters.map Binding.name ∧
      ∃ h ∈ p.handlers, h.name = n ∧
        h.parameters.map Binding.type = method.parameters.map Binding.type := by
  obtain ⟨ts, hts, hmethods⟩ := Method.ofMachine_eq_ok_iff.mp hmakes.methods
  obtain ⟨u, hu, hok⟩ := (mem_of_mapM_eq_ok hmethods).mp hmethod
  obtain ⟨-, -, hbs, harms⟩ := Method.ofTransition_eq_ok_iff.mp hok
  obtain ⟨⟨map, s⟩, hs, harm⟩ := (mem_of_mapM_eq_ok harms).mp ha
  obtain ⟨hmap, hs⟩ := Machine.mem_states_iff.mp hs
  obtain ⟨-, hcalls⟩ := Arm.ofState_eq_ok harm
  cases hclass : handlingClass? map s u.name with
  | none =>
      simp only [hclass] at hcalls
      rw [hcalls] at hforward
      cases hforward
  | some stateClass =>
      simp only [hclass] at hcalls
      obtain ⟨n', hn', hcalls⟩ := hcalls
      obtain ⟨rfl, rfl⟩ := Forward.handler.inj (hforward.symm.trans hcalls)
      obtain ⟨h, hh, hname, htypes⟩ :=
        hmakes.serves hwf hmap (Map.handles_of_handlingClass? hs hclass) hn'
      exact ⟨rfl, h, hh, hname, htypes u _ (exists_of_mem_publicTransitions hts hu).2 rfl hbs⟩

/-- A handler that takes none of its branches calls a handler that is there. -/
theorem otherwise_served (hwf : v.machine.WellFormed) {caller : Handler}
    (hcaller : caller ∈ p.handlers) {branches : List Branch} {n : HandlerName}
    {args : List Rust.Ident} (hbody : caller.body = .branches branches (some (.handler n args))) :
    args = caller.parameters.map Binding.name ∧
      ∃ h ∈ p.handlers, h.name = n ∧
        h.parameters.map Binding.type = caller.parameters.map Binding.type := by
  obtain ⟨map, hmap, ⟨s, hs, t, ht, hok⟩ | ⟨t, ht, hok⟩⟩ := hmakes.mem_handlers_iff.mp hcaller
  · obtain ⟨-, hbs, _, _, hbody', -, hotherwise⟩ := Handler.ofTransition_eq_ok_iff.mp hok
    obtain ⟨-, rfl⟩ := HandlerBody.branches.inj (hbody.symm.trans hbody')
    rcases hotherwise with ⟨-, hnone⟩ | ⟨f, -, hsome, hf⟩
    · cases hnone
    · obtain rfl := Option.some.inj hsome
      unfold Forward.ofState at hf
      split_ifs at hf with hdefault
      · -- a default state forwards to no handler
        unfold Forward.ofDefault at hf
        split_ifs at hf <;> cases hf
      · obtain ⟨n', hn', hf⟩ := bind_eq_ok_iff.mp hf
        obtain ⟨rfl, rfl⟩ := Forward.handler.inj (Except.ok.inj hf)
        have hhandles : map.Handles ⟨map.name, State.defaultName, t.name⟩ :=
          Map.handles_of_hasDefaultHandler
            (Map.hasDefaultHandler_iff.mpr ⟨s, hs, State.defines_iff.mpr ⟨t, ht, rfl⟩⟩)
        obtain ⟨h, hh, hname, htypes⟩ := hmakes.serves hwf hmap hhandles hn'
        exact ⟨rfl, h, hh, hname, htypes t _ ⟨map, hmap, s, hs, ht⟩ rfl hbs⟩
  · obtain ⟨-, -, hbody'⟩ := Handler.forwarding_eq_ok_iff.mp hok
    rw [hbody] at hbody'
    cases hbody'

/-- A derived handler calls no handler. -/
theorem derived_forward_ne {caller : Handler} (hcaller : caller ∈ p.handlers) {f : Forward}
    (hbody : caller.body = .forward f) (n : HandlerName) (args : List Rust.Ident) :
    f ≠ .handler n args := by
  rintro rfl
  obtain ⟨map, -, ⟨s, -, t, -, hok⟩ | ⟨t, -, hok⟩⟩ := hmakes.mem_handlers_iff.mp hcaller
  · obtain ⟨-, -, _, _, hbody', -⟩ := Handler.ofTransition_eq_ok_iff.mp hok
    rw [hbody] at hbody'
    cases hbody'
  · obtain ⟨-, -, hbody'⟩ := Handler.forwarding_eq_ok_iff.mp hok
    have hforward := HandlerBody.forward.inj (hbody.symm.trans hbody')
    unfold Forward.ofDefault at hforward
    split_ifs at hforward

/-- The dispatcher of `Default` transitions calls handlers that are there. -/
theorem dispatch_served (hwf : v.machine.WellFormed) {d : Dispatch} (hd : d ∈ p.dispatch)
    {n : HandlerName} {args : List Rust.Ident} (hfallback : d.fallback = .handler n args) :
    args = [] ∧ ∃ h ∈ p.handlers, h.name = n ∧ h.parameters = [] := by
  obtain ⟨⟨map, s⟩, hs, hok⟩ := (mem_of_mapM_eq_ok hmakes.dispatch).mp hd
  obtain ⟨hmap, hs⟩ := Machine.mem_states_iff.mp hs
  obtain ⟨-, hcalls⟩ := Dispatch.ofState_eq_ok hok
  cases hclass : handlingClass? map s State.defaultTransition with
  | none =>
      simp only [hclass] at hcalls
      rw [hcalls] at hfallback
      cases hfallback
  | some stateClass =>
      simp only [hclass] at hcalls
      obtain ⟨n', hn', hcalls⟩ := hcalls
      obtain ⟨rfl, rfl⟩ := Forward.handler.inj (hfallback.symm.trans hcalls)
      obtain ⟨h, hh, hname⟩ := hmakes.exists_handler_named hwf hmap
        (Map.handles_of_handlingClass? hs hclass) hn'
      refine ⟨rfl, h, hh, hname, ?_⟩
      -- the handler is made from some `Default` transition, and none takes parameters
      obtain ⟨u, ⟨map', hmap', s', hs', hu⟩, hbs, _, _, _, hmake⟩ := hmakes.exists_declaration hh
      have huname : u.name = State.defaultTransition := by
        have hkey : h.name.transition = u.name :=
          congrArg HandlerKey.transition (HandlerName.make_eq_ok_iff.mp hmake).1
        have hkey' : n.transition = State.defaultTransition :=
          congrArg HandlerKey.transition (HandlerName.make_eq_ok_iff.mp hn').1
        rw [← hkey, hname, hkey']
      obtain ⟨ts, hts, -⟩ := Method.ofMachine_eq_ok_iff.mp hmakes.methods
      have hlength := Binding.length_ofTransition hbs
      rw [parameters_eq_nil_of_default hts hmap' hs' hu huname] at hlength
      exact List.length_eq_zero_iff.mp hlength

/-- The methods have an arm for each state. -/
theorem map_place_arms {method : Method} (hmethod : method ∈ p.methods) :
    method.arms.map (·.variant.place) = v.machine.places := by
  obtain ⟨ts, -, hmethods⟩ := Method.ofMachine_eq_ok_iff.mp hmakes.methods
  obtain ⟨u, -, hok⟩ := (mem_of_mapM_eq_ok hmethods).mp hmethod
  exact Method.map_place_arms hok

end Validated.Makes

/-! ### Programs are closed -/

/-- **Every handler that is called is there.** For a machine that was put together step by
step, whatever the options are:

* There is exactly one handler for each transition that the default state of a map declares, for
  each that only its ordinary states declare, and for each that these declare, and no other.
* A forward to a handler hands on the parameters in whose scope it stands, in order, and the
  handler of that name takes parameters of the same types.
* The methods and the dispatcher of `Default` transitions have exactly one arm for each ordinary
  state. -/
theorem handler_calls_closed {m : Machine} {v : Validated} {o : OutputOptions} {p : Program}
    (hbuilt : m.Built) (hvalid : m.validate = .ok v) (hprogram : v.program o = .ok p) :
    ((p.handlers.map (·.name.key)).Nodup ∧
      ∀ k, (∃ h ∈ p.handlers, h.name.key = k) ↔ ∃ map ∈ m.maps, map.Handles k) ∧
    (∀ bs n args, Forwards p bs (.handler n args) →
      args = bs.map Binding.name ∧
        ∃ h ∈ p.handlers, h.name = n ∧ h.parameters.map Binding.type = bs.map Binding.type) ∧
    m.places.Nodup ∧ (∀ method ∈ p.methods, method.arms.map (·.variant.place) = m.places) ∧
      p.dispatch.map (·.variant.place) = m.places := by
  obtain rfl := Machine.machine_of_validate hvalid
  have hmakes := Validated.makes_of_program hprogram
  have hwf := hbuilt.wellFormed
  refine ⟨⟨nodup_map_key_handlers hmakes hwf, fun k => hmakes.exists_handler_iff hwf⟩, ?_,
    hwf.nodup_places, fun method hmethod => hmakes.map_place_arms hmethod,
    hmakes.map_place_dispatch⟩
  intro bs n args hforward
  generalize hf : Forward.handler n args = f at hforward
  cases hforward with
  | arm hmethod ha => exact hmakes.arm_served hwf hmethod ha hf.symm
  | otherwise hh hbody => exact hmakes.otherwise_served hwf hh (hf ▸ hbody)
  | derived hh hbody => exact absurd hf.symm (hmakes.derived_forward_ne hh hbody n args)
  | dispatch hd =>
      obtain ⟨rfl, h, hh, hname, hnone⟩ := hmakes.dispatch_served hwf hd hf.symm
      exact ⟨rfl, h, hh, hname, by rw [hnone]⟩

/-- The program of the gate has a handler for opening the open gate, which does not declare
that, and its dispatcher and its methods have two arms. -/
theorem gate_calls_closed :
    ∃ v p, gate.Built ∧ gate.validate = .ok v ∧ v.program {} = .ok p ∧
      (∃ h ∈ p.handlers, h.name.key = ⟨"Gate", "Default", "open"⟩) ∧
      p.dispatch.map (·.variant.place) = [⟨"Gate", "Closed"⟩, ⟨"Gate", "Open"⟩] ∧
      ∀ bs n args, Forwards p bs (.handler n args) → ∃ h ∈ p.handlers, h.name = n := by
  obtain ⟨v, p, hv, hp⟩ := gate_program
  obtain ⟨⟨-, hhandlers⟩, hcalls, -, -, hdispatch⟩ := handler_calls_closed gate_built hv hp
  have hderived : gateMap.Handles ⟨"Gate", "Default", "open"⟩ :=
    .derived (s := gateClosed) (t := gateUnlock) List.mem_cons_self (List.mem_singleton_self _)
      (by decide)
  refine ⟨v, p, gate_built, hv, hp,
    (hhandlers _).mpr ⟨gateMap, List.mem_singleton_self _, hderived⟩, ?_, fun bs n args hf => ?_⟩
  · rw [hdispatch]
    decide
  · obtain ⟨-, h, hh, hname, -⟩ := hcalls bs n args hf
    exact ⟨h, hh, hname⟩

end StateMachine
