import Mathlib.Logic.Relation
import StateMachine.Program.Rendering
import StateMachine.Proofs.Program.Dispatch

/-!
# Names of Parameters

A transition names its parameters as it likes. Four kinds of functions take them: methods,
handlers, derived handlers and the methods of the shared wrapper. Each of these has parameters of
its own besides, for the owner and, in a handler, for the state. A method binds the state inside of
its parameters. Nothing keeps a transition from naming a parameter like one of these, or two
parameters alike.

## Proof strategy

The names of all four kinds come from the declared transitions, so that they are apart in a program
exactly if they are in the machine. If they are, a call is followed forward by forward:
`Call.HandsOn` says what it has to hand on, the first call of a method does so (`Arm.handsOn`), and
one forward keeps it (`Relays.handsOn`).

## Conventions

* Names are compared as they are read: a raw name counts as the name itself.
* `p.Declares f names` reads: the function `f` of the program takes the parameters of a transition,
  and `names` are the names of all its parameters but the first, which is the context itself.
* What a transition passes is the owner, the state and its arguments; a `Default` transition takes
  no arguments.

## Main results

* `Program.apart_iff`: the names of every function are distinct, and no method hides the state,
  **exactly if the parameters of the machine are apart**.
* `Call.HandsOn.of_relays`: then every handler on the way is called with what was passed.
* `arguments_reach_handlers`: both, for the machine and its program.
-/

namespace StateMachine

open Program Relation

namespace Program

/-! ### Functions and their parameters -/

/-- The name of the owner, as an identifier. -/
def ownerIdent : Rust.Ident := { text := ownerName }

/-- The name of the state, as an identifier. -/
def stateIdent : Rust.Ident := { text := stateName }

/-- The names of the parameters of a method, behind the context. -/
def Method.parameterIdents (method : Method) : List Rust.Ident :=
  ownerIdent :: method.parameters.map Binding.name

/-- The names of the parameters of a handler, behind the context. -/
def Handler.parameterIdents (h : Handler) : List Rust.Ident :=
  ownerIdent :: stateIdent :: h.parameters.map Binding.name

/-- **The functions of a program that take the parameters of a transition**, with the names of
their parameters. A derived handler is one of the handlers. -/
inductive Declares (p : Program) : Function → List Rust.Ident → Prop
  | method {method : Method} : method ∈ p.methods →
      Declares p (p.methodFunction method) method.parameterIdents
  | handler {h : Handler} : h ∈ p.handlers →
      Declares p (p.handlerFunction h) h.parameterIdents
  | shared {method : Method} : p.isShared = true → method ∈ p.methods →
      Declares p (p.sharedMethodFunction method) method.parameterIdents

/-- A function is written with parameters of these names, each with a type, behind the context. -/
def Function.Lists (f : Function) (names : List Rust.Ident) : Prop :=
  ∃ context ∈ [words "& self", words "& mut self"], ∃ types, types.length = names.length ∧
    f.parameters = context ++
      (names.zip types).flatMap fun (i, type) => words "," ++ name i ++ words ":" ++ type

/-- The names of the parameters of every function are distinct, and no method has a parameter that
its state hides. -/
structure ParametersApart (p : Program) : Prop where
  distinct : ∀ f names, p.Declares f names → (names.map Rust.Ident.text).Nodup
  visible : ∀ method ∈ p.methods, stateName ∉ method.parameters.map (·.name.text)

/-- Handlers of the transition `name` take `n` arguments, and those of `Default` take none. -/
structure HandlersTake (p : Program) (name : String) (n : Nat) : Prop where
  own : ∀ h ∈ p.handlers, h.name.key.transition = name → h.parameters.length = n
  default : ∀ h ∈ p.handlers, h.name.key.transition = State.defaultTransition →
    h.parameters.length = 0

/-- The parameters of a transition are written with their names. -/
theorem furtherParameters_eq_flatMap (bs : List Binding) :
    furtherParameters bs =
      ((bs.map Binding.name).zip (bs.map (·.type.pieces))).flatMap fun (i, type) =>
        words "," ++ name i ++ words ":" ++ type := by
  rw [furtherParameters, List.zip_map', List.flatMap_map]

/-- **Every function lists its parameters.** -/
theorem Declares.lists {p : Program} {f : Function} {names : List Rust.Ident}
    (h : p.Declares f names) : f.Lists names := by
  have howner : p.ownerParameter =
      name ownerIdent ++ words ":" ++ (words "& mut" ++ name p.owner) :=
    rfl
  have hstate : p.stateParameter = name stateIdent ++ words ":" ++ p.stateEnum := rfl
  have hfirst : words "& mut self ," = words "& mut self" ++ words "," := rfl
  have hshared : words "& self ," = words "& self" ++ words "," := rfl
  cases h with
  | @method method _ =>
      refine ⟨words "& mut self", by simp, (words "& mut" ++ name p.owner) ::
        method.parameters.map (·.type.pieces), by simp [Method.parameterIdents], ?_⟩
      simp only [methodFunction, howner, hfirst, furtherParameters_eq_flatMap,
        Method.parameterIdents, List.zip_cons_cons, List.flatMap_cons, List.append_assoc]
  | @handler h _ =>
      refine ⟨words "& mut self", by simp, (words "& mut" ++ name p.owner) :: p.stateEnum ::
        h.parameters.map (·.type.pieces), by simp [Handler.parameterIdents], ?_⟩
      simp only [handlerFunction, dispatchParameters, howner, hstate, hfirst,
        furtherParameters_eq_flatMap, Handler.parameterIdents, List.zip_cons_cons,
        List.flatMap_cons, List.append_assoc]
  | @shared method _ _ =>
      refine ⟨words "& self", by simp, (words "& mut" ++ name p.owner) ::
        method.parameters.map (·.type.pieces), by simp [Method.parameterIdents], ?_⟩
      simp only [sharedMethodFunction, howner, hshared, furtherParameters_eq_flatMap,
        Method.parameterIdents, List.zip_cons_cons, List.flatMap_cons, List.append_assoc]

/-- The names of the parameters of a method, as texts. -/
theorem Method.map_text_parameterIdents (method : Method) :
    method.parameterIdents.map Rust.Ident.text = Binding.methodNames method.parameters := by
  simp [parameterIdents, Binding.methodNames, ownerIdent, Function.comp_def]

/-- The names of the parameters of a handler, as texts. -/
theorem Handler.map_text_parameterIdents (h : Handler) :
    h.parameterIdents.map Rust.Ident.text = Binding.handlerNames h.parameters := by
  simp [parameterIdents, Binding.handlerNames, ownerIdent, stateIdent, Function.comp_def]

/-- If the parameters of a program are apart, those of each handler are. -/
theorem ParametersApart.nodup_handlerNames {p : Program} (hapart : p.ParametersApart) {h : Handler}
    (hmem : h ∈ p.handlers) : (Binding.handlerNames h.parameters).Nodup := by
  rw [← h.map_text_parameterIdents]
  exact hapart.distinct _ _ (.handler hmem)

/-- A handler has the names of a method, and the state among them. -/
theorem Binding.nodup_handlerNames_iff {bs : List Binding} :
    (Binding.handlerNames bs).Nodup ↔
      (Binding.methodNames bs).Nodup ∧ stateName ∉ bs.map (·.name.text) := by
  have hne : ownerName ≠ stateName := by decide
  simp only [Binding.handlerNames, Binding.methodNames, List.nodup_cons, List.mem_cons]
  tauto

/-! ### Where the parameters come from -/

section

variable {v : Validated} {o : OutputOptions} {p : Program} (hmakes : v.Makes o p)

include hmakes

/-- A method has the parameters of a declared transition of its name, other than `Default`. -/
theorem exists_transition_of_method {method : Method} (hmem : method ∈ p.methods) :
    ∃ map ∈ v.machine.maps, ∃ s ∈ map.allStates, ∃ t ∈ s.transitions,
      t.name ≠ State.defaultTransition ∧ Method.ofTransition v.machine t = .ok method := by
  obtain ⟨ts, hts, hmethods⟩ := Method.ofMachine_eq_ok_iff.mp hmakes.methods
  obtain ⟨t, ht, hok⟩ := (mem_of_mapM_eq_ok hmethods).mp hmem
  obtain ⟨hdefault, map, hmap, s, hs, htmem⟩ := exists_of_mem_publicTransitions hts ht
  exact ⟨map, hmap, s, hs, t, htmem, hdefault, hok⟩

/-- A handler, derived or not, has the parameters of a declared transition of its name. -/
theorem exists_transition_of_handler {h : Handler} (hmem : h ∈ p.handlers) :
    ∃ map ∈ v.machine.maps, ∃ s ∈ map.allStates, ∃ t ∈ s.transitions,
      h.name.key.transition = t.name ∧ Binding.ofTransition t = .ok h.parameters := by
  obtain ⟨map, hmap, ⟨s, hs, t, ht, hok⟩ | ⟨t, ht, hok⟩⟩ := hmakes.mem_handlers_iff.mp hmem
  · obtain ⟨hname, hbs, -⟩ := Handler.ofTransition_eq_ok_iff.mp hok
    exact ⟨map, hmap, s, hs, t, ht,
      congrArg HandlerKey.transition (HandlerName.make_eq_ok_iff.mp hname).1, hbs⟩
  · obtain ⟨hname, hbs, -⟩ := Handler.forwarding_eq_ok_iff.mp hok
    obtain ⟨-, s, hs, htmem⟩ := Map.mem_undefinedDefaultTransitions ht
    exact ⟨map, hmap, s, List.mem_append_right _ hs, t, htmem,
      congrArg HandlerKey.transition (HandlerName.make_eq_ok_iff.mp hname).1, hbs⟩

/-- Handlers take as many arguments as the method of their transition, and those of `Default`
take none. -/
theorem handlersTake_of_method {method : Method} (hmem : method ∈ p.methods) :
    p.HandlersTake method.transition method.parameters.length := by
  obtain ⟨map, hmap, s, hs, t, ht, hname, hok⟩ := exists_transition_of_method hmakes hmem
  obtain ⟨htransition, -, hbs, -⟩ := Method.ofTransition_eq_ok_iff.mp hok
  obtain ⟨ts, hts, -⟩ := Method.ofMachine_eq_ok_iff.mp hmakes.methods
  refine ⟨fun h hmem hkey => ?_, fun h hmem hkey => ?_⟩
  · obtain ⟨map', hmap', s', hs', u, hu, hukey, hubs⟩ := exists_transition_of_handler hmakes hmem
    have huname : u.name = t.name := hukey.symm.trans (hkey.trans htransition)
    rw [Binding.length_ofTransition hubs, Binding.length_ofTransition hbs]
    exact length_parameters_of_name hts hmap' hmap hs' hs hu ht huname hname
  · obtain ⟨map', hmap', s', hs', u, hu, hukey, hubs⟩ := exists_transition_of_handler hmakes hmem
    rw [Binding.length_ofTransition hubs,
      parameters_eq_nil_of_default hts hmap' hs' hu (hukey.symm.trans hkey)]
    rfl

/-- **The parameters of a program are apart exactly if those of the machine are.** -/
theorem apart_iff : p.ParametersApart ↔ v.machine.ParametersApart := by
  constructor
  · intro hp map hmap s hs t ht bs hbs
    obtain ⟨h, hmem, hok⟩ := hmakes.exists_handler hmap hs ht
    obtain ⟨-, hparameters, -⟩ := Handler.ofTransition_eq_ok_iff.mp hok
    obtain rfl := Except.ok.inj (hparameters.symm.trans hbs)
    exact hp.nodup_handlerNames hmem
  · intro happart
    have hmethods : ∀ method ∈ p.methods, (Binding.handlerNames method.parameters).Nodup := by
      intro method hmem
      obtain ⟨map, hmap, s, hs, t, ht, -, hok⟩ := exists_transition_of_method hmakes hmem
      exact happart map hmap s hs t ht _ (Method.ofTransition_eq_ok_iff.mp hok).2.2.1
    refine ⟨?_, fun method hmem => (Binding.nodup_handlerNames_iff.mp (hmethods method hmem)).2⟩
    intro f names hdeclares
    cases hdeclares with
    | method hmem =>
        rw [Method.map_text_parameterIdents]
        exact (Binding.nodup_handlerNames_iff.mp (hmethods _ hmem)).1
    | handler hmem =>
        obtain ⟨map, hmap, s, hs, t, ht, -, hbs⟩ := exists_transition_of_handler hmakes hmem
        rw [Handler.map_text_parameterIdents]
        exact happart map hmap s hs t ht _ hbs
    | shared _ hmem =>
        rw [Method.map_text_parameterIdents]
        exact (Binding.nodup_handlerNames_iff.mp (hmethods _ hmem)).1

end

/-! ### What is handed on -/

section

variable {V : Type}

/-- What the method of the shared wrapper hands to the method of the context. -/
def Method.shared? (method : Method) (args : List V) : Option (List (Value V)) :=
  (Frame.enter (Binding.methodNames method.parameters) (.owner :: args.map .argument)).bind
    (·.read (Binding.methodNames method.parameters))

/-- **One call makes another one**, whatever conditions hold. -/
inductive Relays (p : Program) : Call V → Call V → Prop
  | handler {h : Handler} {values : List (Value V)} {frame : Frame V} {truth : Truth}
      {f : Forward} {call : Call V} :
      h ∈ p.handlers → Frame.enter (Binding.handlerNames h.parameters) values = some frame →
      h.choice truth = .forward f → f.call? frame = some call →
      Relays p (.handler h.name.key values) call
  | dispatch {d : Dispatch} {values : List (Value V)} {frame : Frame V} {call : Call V} :
      d ∈ p.dispatch → Frame.enter [ownerName, stateName] values = some frame →
      frame.lookup stateName = some (.state d.variant.place) →
      d.fallback.call? frame = some call → Relays p (.defaultTransition values) call

/-- **A call hands on what was passed** to the transition `name` in the state at `place`. -/
inductive Call.HandsOn (name : String) (place : Place) (args : List V) : Call V → Prop
  | handler {key : HandlerKey} : key.transition = name →
      HandsOn name place args (.handler key (passed place args))
  | default {key : HandlerKey} : key.transition = State.defaultTransition →
      HandsOn name place args (.handler key (passed place []))
  | dispatcher : HandsOn name place args (.defaultTransition (passed place []))
  | unhandled : HandsOn name place args (.unhandled [.state place])

variable {v : Validated} {o : OutputOptions} {p : Program} {name : String} {place : Place}
  {args : List V} {call call' : Call V}

/-- What comes after the default state hands on the owner and the state. -/
theorem handsOn_afterDefault (transition : String) :
    (afterDefault transition place).HandsOn name place args := by
  unfold afterDefault
  split_ifs
  · exact .unhandled
  · exact .dispatcher

/-- Distinct names hand on all that a caller of the wrapper passed. -/
theorem Method.shared?_eq_some {method : Method}
    (hnodup : (Binding.methodNames method.parameters).Nodup)
    (hlength : method.parameters.length = args.length) :
    method.shared? args = some (.owner :: args.map .argument) := by
  have hlengths : (Binding.methodNames method.parameters).length =
      (Value.owner :: args.map Value.argument).length := by
    simp [Binding.methodNames, hlength]
  rw [shared?, Frame.enter, if_pos hlengths]
  exact Frame.read_zip hnodup hlengths

/-- A handler that is called with what was passed reads it back. -/
theorem Handler.exists_frame {h : Handler} (hnodup : (Binding.handlerNames h.parameters).Nodup)
    (hlength : h.parameters.length = args.length) :
    ∃ frame, Frame.enter (Binding.handlerNames h.parameters) (passed place args) = some frame ∧
      frame.read (Binding.handlerNames h.parameters) = some (passed place args) :=
  ⟨_, enter_passed hlength,
    Frame.read_zip hnodup (by simp [Binding.handlerNames, passed, hlength])⟩

/-- **The first call of a method hands on what was passed.** -/
theorem Arm.handsOn {m : Machine} {t : Transition} {method : Method}
    (hmethod : Method.ofTransition m t = .ok method)
    (hnodup : (Binding.handlerNames method.parameters).Nodup)
    (hlength : method.parameters.length = args.length) {arm : Arm} (harm : arm ∈ method.arms) :
    ∃ call, arm.forward.call? (methodFrame method.parameters arm.variant.place args) = some call ∧
      call.HandsOn method.transition arm.variant.place args := by
  obtain ⟨htransition, -, -, harms⟩ := Method.ofTransition_eq_ok_iff.mp hmethod
  obtain ⟨⟨map, s⟩, -, hok⟩ := (mem_of_mapM_eq_ok harms).mp harm
  obtain ⟨-, hforward⟩ := Arm.ofState_eq_ok hok
  cases hclass : handlingClass? map s t.name with
  | none =>
      simp only [hclass] at hforward
      rw [hforward]
      exact ⟨_, call?_defaultTransition_methodFrame, .dispatcher⟩
  | some stateClass =>
      simp only [hclass] at hforward
      obtain ⟨target, htarget, hforward⟩ := hforward
      have hkey := congrArg HandlerKey.transition (HandlerName.make_eq_ok_iff.mp htarget).1
      rw [hforward]
      exact ⟨_, call?_handler_methodFrame hnodup hlength target,
        .handler (hkey.trans htransition.symm)⟩

/-- Where a handler forwards to that is called with what was passed. -/
theorem Handler.call_of_forward (hmakes : v.Makes o p) {h : Handler} (hmem : h ∈ p.handlers)
    (hnodup : (Binding.handlerNames h.parameters).Nodup)
    (hlength : h.parameters.length = args.length) {truth : Truth} {f : Forward}
    (hchoice : h.choice truth = .forward f)
    (hcall : f.call? (frameOf h.parameters place args) = some call) :
    call = afterDefault h.name.key.transition place ∨
      ∃ key, key.transition = h.name.key.transition ∧ call = .handler key (passed place args) := by
  obtain ⟨map, hmap, ⟨s, hs, t, ht, hok⟩ | ⟨t, ht, hok⟩⟩ := hmakes.mem_handlers_iff.mp hmem
  · obtain ⟨hname, -⟩ := Handler.ofTransition_eq_ok_iff.mp hok
    have hkey : h.name.key.transition = t.name :=
      congrArg HandlerKey.transition (HandlerName.make_eq_ok_iff.mp hname).1
    rcases Handler.choice_of_ofTransition hok truth with
      ⟨_, _, _, -, -, htake⟩ | ⟨f', -, hf, hforward⟩
    · rw [htake] at hchoice
      cases hchoice
    · obtain rfl := Choice.forward.inj (hforward.symm.trans hchoice)
      have hafter := Option.some.inj (hcall.symm.trans (call?_ofState hnodup hlength hf))
      rw [hafter, hkey]
      by_cases hdefault : s.isDefault = true
      · exact .inl (by rw [afterState, if_pos hdefault])
      · exact .inr ⟨⟨map.name, State.defaultName, t.name⟩, rfl, by rw [afterState, if_neg hdefault]⟩
  · obtain ⟨hname, -, hbody⟩ := Handler.forwarding_eq_ok_iff.mp hok
    have hkey : h.name.key.transition = t.name :=
      congrArg HandlerKey.transition (HandlerName.make_eq_ok_iff.mp hname).1
    have hforward : h.choice truth = .forward (.ofDefault t.name) := by
      rw [Handler.choice, hbody]
    obtain rfl := Choice.forward.inj (hforward.symm.trans hchoice)
    rw [hkey]
    exact .inl (Option.some.inj (hcall.symm.trans call?_ofDefault))

/-- **One forward hands on what was passed**, if the parameters of the program are apart and its
handlers take as many arguments as were passed. -/
theorem Relays.handsOn (hmakes : v.Makes o p) (hapart : p.ParametersApart)
    (htake : p.HandlersTake name args.length) (h : Relays p call call')
    (hcall : call.HandsOn name place args) : call'.HandsOn name place args := by
  cases h with
  | @handler handler values frame truth f _ hmem henter hchoice hf =>
      have hnodup := hapart.nodup_handlerNames hmem
      -- a handler of the transition was called with the arguments, one of `Default` without
      cases hcall with
      | handler hkey =>
          have hlength := htake.own handler hmem hkey
          obtain rfl := Option.some.inj ((enter_passed hlength).symm.trans henter)
          rcases Handler.call_of_forward hmakes hmem hnodup hlength hchoice hf with
            rfl | ⟨key, htransition, rfl⟩
          · exact handsOn_afterDefault _
          · exact .handler (htransition.trans hkey)
      | default hkey =>
          have hlength : handler.parameters.length = ([] : List V).length :=
            htake.default handler hmem hkey
          obtain rfl := Option.some.inj ((enter_passed hlength).symm.trans henter)
          rcases Handler.call_of_forward hmakes hmem hnodup hlength hchoice hf with
            rfl | ⟨key, htransition, rfl⟩
          · exact handsOn_afterDefault _
          · exact .default (htransition.trans hkey)
  | @dispatch d values frame _ hmem henter hstate hf =>
      cases hcall
      have hframe : Frame.enter [ownerName, stateName] (passed place ([] : List V)) =
          some (frameOf [] place []) := rfl
      obtain rfl := Option.some.inj (hframe.symm.trans henter)
      obtain ⟨⟨map, s⟩, -, hok⟩ := (mem_of_mapM_eq_ok hmakes.dispatch).mp hmem
      obtain ⟨-, hfallback⟩ := Dispatch.ofState_eq_ok hok
      cases hclass : handlingClass? map s State.defaultTransition with
      | none =>
          simp only [hclass] at hfallback
          rw [hfallback, call?_unhandled] at hf
          obtain rfl := Option.some.inj hf
          exact .unhandled
      | some stateClass =>
          simp only [hclass] at hfallback
          obtain ⟨target, htarget, hfallback⟩ := hfallback
          rw [hfallback, call?_handler_nil] at hf
          obtain rfl := Option.some.inj hf
          exact .default (congrArg HandlerKey.transition (HandlerName.make_eq_ok_iff.mp htarget).1)

/-- **So does a chain of forwards.** -/
theorem Call.HandsOn.of_relays (hmakes : v.Makes o p) (hapart : p.ParametersApart)
    (htake : p.HandlersTake name args.length) (h : ReflTransGen p.Relays call call')
    (hcall : call.HandsOn name place args) : call'.HandsOn name place args := by
  induction h with
  | refl => exact hcall
  | tail _ hlast ih => exact hlast.handsOn hmakes hapart htake ih

/-- What is handed on to a handler can be read there. -/
theorem Call.HandsOn.exists_frame (hapart : p.ParametersApart)
    (htake : p.HandlersTake name args.length) {h : Handler} (hmem : h ∈ p.handlers)
    {values : List (Value V)} (hcall : (Call.handler h.name.key values).HandsOn name place args) :
    ∃ frame, Frame.enter (Binding.handlerNames h.parameters) values = some frame ∧
      frame.read (Binding.handlerNames h.parameters) = some values := by
  have hnodup := hapart.nodup_handlerNames hmem
  cases hcall with
  | handler hkey => exact Handler.exists_frame hnodup (htake.own h hmem hkey)
  | default hkey => exact Handler.exists_frame hnodup (htake.default h hmem hkey)

end

end Program

/-! ### Arguments reach the handlers -/

/-- **Arguments reach the handlers**, if parameters have names of their own. Each function of a
program that takes the parameters of a transition lists them behind those for the owner and, in a
handler, for the state. All of these names are distinct in every function, and no method has a
parameter that the state hides, exactly if each declared transition has parameters of distinct
names, none of which is that of the owner or of the state.

Then take any call of a method, with one argument for each parameter, in any state that it has an
arm for. The shared wrapper hands the arguments on as they are. The method makes a call, and however
this is forwarded, every handler of the transition is called with the owner, the state and these
arguments, every handler of `Default` with the owner and the state, and reads all of it back under
the names of its parameters. -/
theorem arguments_reach_handlers {m : Machine} {v : Validated} {o : OutputOptions} {p : Program}
    (hvalid : m.validate = .ok v) (hprogram : v.program o = .ok p) :
    (∀ f names, p.Declares f names → f.Lists names) ∧
      (((∀ f names, p.Declares f names → (names.map Rust.Ident.text).Nodup) ∧
        ∀ method ∈ p.methods, stateName ∉ method.parameters.map (·.name.text)) ↔
          m.ParametersApart) ∧
      (m.ParametersApart → ∀ (V : Type), ∀ method ∈ p.methods, ∀ arm ∈ method.arms,
        ∀ args : List V, method.parameters.length = args.length →
          method.shared? args = some (.owner :: args.map .argument) ∧
          ∃ first,
            arm.forward.call? (methodFrame method.parameters arm.variant.place args) =
              some first ∧
            ∀ call, ReflTransGen p.Relays first call →
              call.HandsOn method.transition arm.variant.place args ∧
              ∀ h ∈ p.handlers, ∀ values, call = .handler h.name.key values →
                ∃ frame, Frame.enter (Binding.handlerNames h.parameters) values = some frame ∧
                  frame.read (Binding.handlerNames h.parameters) = some values) := by
  obtain rfl := Machine.machine_of_validate hvalid
  have hmakes := Validated.makes_of_program hprogram
  refine ⟨fun f names h => h.lists, ?_, ?_⟩
  · rw [← apart_iff hmakes]
    exact ⟨fun h => ⟨h.1, h.2⟩, fun h => ⟨h.distinct, h.visible⟩⟩
  · intro happart V method hmethod arm harm args hlength
    have hapart := (apart_iff hmakes).mpr happart
    have htake := handlersTake_of_method hmakes hmethod
    rw [hlength] at htake
    obtain ⟨map, hmap, s, hs, t, ht, -, hok⟩ := exists_transition_of_method hmakes hmethod
    have hnodup := happart map hmap s hs t ht _ (Method.ofTransition_eq_ok_iff.mp hok).2.2.1
    obtain ⟨first, hfirst, hhandsOn⟩ := Arm.handsOn hok hnodup hlength harm
    refine ⟨Method.shared?_eq_some (Binding.nodup_handlerNames_iff.mp hnodup).1 hlength, first,
      hfirst, fun call hrelays => ?_⟩
    have hcall := hhandsOn.of_relays hmakes hapart htake hrelays
    refine ⟨hcall, ?_⟩
    rintro h hmem values rfl
    exact hcall.exists_frame hapart htake hmem

/-- The key reaches the handlers of the gate, through the shared wrapper too. -/
theorem gate_hands_on_key :
    ∃ v p, gate.validate = .ok v ∧ v.program { sync := true } = .ok p ∧ gate.ParametersApart ∧
      ∃ method ∈ p.methods, method.transition = gateUnlock.name ∧
        method.parameters.length = [8].length ∧
        method.shared? [8] = some [.owner, .argument 8] ∧
        ∃ arm ∈ method.arms, arm.variant.place = .ofState gateMap gateClosed ∧
          ∃ first,
            arm.forward.call? (methodFrame method.parameters arm.variant.place [8]) = some first ∧
            ∀ call, ReflTransGen p.Relays first call →
              call.HandsOn gateUnlock.name (.ofState gateMap gateClosed) [8] := by
  obtain ⟨v, p, hv, hp⟩ : ∃ v p, gate.validate = .ok v ∧ v.program { sync := true } = .ok p :=
    Machine.exists_program (by decide +kernel)
  obtain ⟨-, -, hreach⟩ := arguments_reach_handlers hv hp
  have happart : gate.ParametersApart := by decide +kernel
  have hmakes := Validated.makes_of_program hp
  have hmachine := Machine.machine_of_validate hv
  have hmap : gateMap ∈ v.machine.maps := by
    rw [hmachine]
    exact List.mem_singleton_self _
  have hordinary : gateClosed ∈ gateMap.states := List.mem_cons_self
  have hunlock : gateUnlock ∈ gateClosed.transitions := List.mem_singleton_self _
  obtain ⟨ts, hts, hmethods⟩ := Method.ofMachine_eq_ok_iff.mp hmakes.methods
  obtain ⟨u, hu, huname, hutypes⟩ := exists_mem_publicTransitions hts hmap
    (List.mem_append_right _ hordinary) hunlock (by decide)
  obtain ⟨method, hmethod, hok⟩ := exists_of_mapM_eq_ok hmethods hu
  obtain ⟨htransition, -, hbs, harms⟩ := Method.ofTransition_eq_ok_iff.mp hok
  have hlength : method.parameters.length = [8].length :=
    (Binding.length_ofTransition hbs).trans (length_parameters_of_types hutypes)
  obtain ⟨arm, harm, harmOk⟩ :=
    exists_of_mapM_eq_ok harms (Machine.mem_states_iff.mpr ⟨hmap, hordinary⟩)
  have hplace := (Arm.ofState_eq_ok harmOk).1
  obtain ⟨hshared, first, hfirst, hcalls⟩ :=
    hreach happart Nat method hmethod arm harm [8] hlength
  refine ⟨v, p, hv, hp, happart, method, hmethod, htransition.trans huname, hlength, hshared, arm,
    harm, hplace, first, hfirst, fun call hrelays => ?_⟩
  have hcall := (hcalls call hrelays).1
  rw [htransition, huname, hplace] at hcall
  exact hcall

/-! ### A lamp -/

/-- The transition that dims the lamp to a given state of brightness. -/
def lampDim : Transition :=
  { name := "dim"
    line := 3
    parameters := [⟨"state", "u32", 3⟩]
    guards := [.make "" (.set .nil) 3 []] }

/-- The lamp can be dimmed. -/
def lampOn : State := { className := "On", transitions := [lampDim] }

/-- The map of the lamp. -/
def lampMap : Map := { name := "Lamp", states := [lampOn] }

/-- A lamp that is on. -/
def lamp : Machine :=
  Machine.setStart { context := "Owner", maps := [lampMap] } "Lamp::On" 1

/-- The lamp can be put together. -/
theorem lamp_built : lamp.Built := by
  have hon : lampOn.Built :=
    .addTransition (.new "On" 0)
      (.addGuard (.withParameters [⟨"state", "u32", 3⟩] (.new "dim" 3)) (.make "" _ 3 []) rfl) rfl
  have hmap : lampMap.Built :=
    .addState (.new "Lamp" 0) hon
      (Map.addState_eq_ok_iff.mpr (.inr ⟨by decide, by decide, rfl⟩))
  exact .setStart "Lamp::On" 1 (.addMap (.new "Owner") hmap rfl)

/-- **The lamp's brightness is lost.** Its parameter is named like the state, and there is a program
for the lamp all the same. Its handler has two parameters of one name, and its method calls this
handler with the state in the place of the argument. -/
theorem lamp_dim_loses_brightness :
    ∃ v p, lamp.Built ∧ lamp.validate = .ok v ∧ v.program {} = .ok p ∧
      (∃ f names, p.Declares f names ∧ ¬ (names.map Rust.Ident.text).Nodup) ∧
      ∃ method ∈ p.methods, stateName ∈ method.parameters.map (·.name.text) ∧
        ∃ arm ∈ method.arms, ∃ h ∈ p.handlers, ∀ brightness : Nat,
          arm.forward.call? (methodFrame method.parameters arm.variant.place [brightness]) =
            some (.handler h.name.key
              [.owner, .state arm.variant.place, .state arm.variant.place]) := by
  obtain ⟨v, p, hv, hp⟩ : ∃ v p, lamp.validate = .ok v ∧ v.program {} = .ok p :=
    Machine.exists_program (by decide +kernel)
  have hmakes := Validated.makes_of_program hp
  have hmachine := Machine.machine_of_validate hv
  have hmap : lampMap ∈ v.machine.maps := by
    rw [hmachine]
    exact List.mem_singleton_self _
  have hordinary : lampOn ∈ lampMap.states := List.mem_singleton_self _
  have hdim : lampDim ∈ lampOn.transitions := List.mem_singleton_self _
  have hnames : ∀ bs, Binding.ofTransition lampDim = .ok bs →
      bs.map (·.name.text) = [stateName] := by
    intro bs hbs
    have hread : (Binding.ofTransition lampDim).toOption.map (List.map (·.name.text)) =
        some [stateName] := by
      decide +kernel
    rw [hbs] at hread
    exact Option.some.inj hread
  obtain ⟨h, hmem, hhandler⟩ := hmakes.exists_handler hmap (List.mem_append_right _ hordinary) hdim
  obtain ⟨hname, hparameters, -⟩ := Handler.ofTransition_eq_ok_iff.mp hhandler
  obtain ⟨ts, hts, hmethods⟩ := Method.ofMachine_eq_ok_iff.mp hmakes.methods
  obtain ⟨u, hu, -⟩ := exists_mem_publicTransitions hts hmap
    (List.mem_append_right _ hordinary) hdim (by decide)
  obtain ⟨-, map, hmap', s, hs, humem⟩ := exists_of_mem_publicTransitions hts hu
  obtain rfl : u = lampDim := by
    rw [hmachine] at hmap'
    obtain rfl : map = lampMap := List.mem_singleton.mp hmap'
    obtain rfl : s = lampOn := List.mem_singleton.mp hs
    exact List.mem_singleton.mp humem
  obtain ⟨method, hmethod, hok⟩ := exists_of_mapM_eq_ok hmethods hu
  obtain ⟨-, -, hbs, harms⟩ := Method.ofTransition_eq_ok_iff.mp hok
  obtain ⟨arm, harm, harmOk⟩ :=
    exists_of_mapM_eq_ok harms (Machine.mem_states_iff.mpr ⟨hmap, hordinary⟩)
  obtain ⟨n, hn, hforward⟩ := (Arm.ofState_eq_ok harmOk).2
  have hkey : n.key = h.name.key :=
    (HandlerName.make_eq_ok_iff.mp hn).1.trans (HandlerName.make_eq_ok_iff.mp hname).1.symm
  refine ⟨v, p, lamp_built, hv, hp, ⟨_, _, .handler hmem, ?_⟩, method, hmethod, ?_, arm, harm, h,
    hmem, fun brightness => ?_⟩
  · rw [h.map_text_parameterIdents, Binding.handlerNames, hnames _ hparameters]
    decide
  · rw [hnames _ hbs]
    exact List.mem_singleton_self _
  · have harguments : (method.parameters.map Binding.name).map Rust.Ident.text = [stateName] := by
      rw [List.map_map]
      exact hnames _ hbs
    have hframe : Binding.methodNames method.parameters = [ownerName, stateName] :=
      congrArg (ownerName :: ·) (hnames _ hbs)
    rw [hforward, Forward.call?, harguments, methodFrame, hframe, hkey]
    rfl

end StateMachine
