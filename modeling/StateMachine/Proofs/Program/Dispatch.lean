import StateMachine.Proofs.Program.Forwarding
import StateMachine.Proofs.Program.Reading

/-!
# Which Guard Answers a Transition

Four lists of guards can answer a transition in a state: those of the transition in the
state itself and in the default state of its map, and those of `Default` in the state and in
the default state. A program decides between them in five kinds of places, the arms of
methods, the branches of handlers, their forwards, the derived handlers and the arms of the
`Default` dispatcher, and each decides on its own. Together they take the first guard of the
four lists that is unconditional or holds.

## Proof strategy

`FirstOf cs k` says that the first of the candidates `cs` that fires has its body run, and
that `k` holds if none fires. A handler is the first of its own guards followed by where it
forwards to; `firstOf_append` joins such steps, so the chain of forwards is followed one
handler at a time, and each handler contributes one of the four lists.

## Main results

* `lands_declared_iff`, `lands_derived_iff`: what a handler contributes.
* `lands_entry_iff`: what a state and the default state of its map contribute together.
* `executes_iff_lands_entry`: where the method of a transition enters this chain.
* `executes_iff_firstOf`: the method runs the body of the first guard that fires, or leaves
  the transition unhandled.
* `dispatch_takes_first_guard`: for a machine that was put together step by step, the methods,
  handlers and dispatchers are read in what is written of the program, and the method does
  **exactly one** of these.
-/

namespace StateMachine

open Program

/-! ### Parameters -/

/-- The parameters of the transition have names that are distinct and not those of the owner
and the state, as they are read. -/
def Transition.ParametersApart (t : Transition) : Prop :=
  ∀ bs, Binding.ofTransition t = .ok bs → (Binding.handlerNames bs).Nodup

instance (t : Transition) : Decidable t.ParametersApart :=
  match h : Binding.ofTransition t with
  | .ok bs =>
    decidable_of_iff (Binding.handlerNames bs).Nodup
      ⟨fun hnodup _ hbs => Except.ok.inj (h.symm.trans hbs) ▸ hnodup, fun happart => happart bs h⟩
  | .error _ => .isTrue fun _ hbs => by rw [h] at hbs; cases hbs

/-- The parameters of every transition have names of their own. -/
def Machine.ParametersApart (m : Machine) : Prop :=
  ∀ map ∈ m.maps, ∀ s ∈ map.allStates, ∀ t ∈ s.transitions, t.ParametersApart

instance (m : Machine) : Decidable m.ParametersApart :=
  inferInstanceAs <| Decidable <|
    ∀ map ∈ m.maps, ∀ s ∈ map.allStates, ∀ t ∈ s.transitions, t.ParametersApart

namespace Program

/-! ### Candidates -/

/-- A guard that may answer a transition, with where it is declared. -/
structure Candidate where
  state : State
  transition : Transition
  guard : Guard
  /-- The number of the guard in its transition, from 0. -/
  index : Nat

namespace Candidate

/-- The guards of a transition of a state, in order. -/
def ofTransition (s : State) (t : Transition) : List Candidate :=
  t.guards.zipIdx.map fun (g, i) => ⟨s, t, g, i⟩

/-- The guards of the transition `name` of a state; none if it does not declare it. -/
def ofState (name : String) (s : State) : List Candidate :=
  (s.transition? name).toList.flatMap (ofTransition s)

/-- The guards of the transition `name` of the default state of a map. -/
def ofDefault (map : Map) (name : String) : List Candidate :=
  map.defaultState.toList.flatMap (ofState name)

/-- **The guards that may answer the transition `name` in the state `s`**, in order: the
state's own, those of the default state, then the same for `Default`. -/
def all (map : Map) (s : State) (name : String) : List Candidate :=
  ofState name s ++ ofDefault map name ++ ofState State.defaultTransition s ++
    ofDefault map State.defaultTransition

/-- Where the guard stands. -/
def site (map : Map) (c : Candidate) : Site :=
  ⟨map.handlerKey c.state c.transition, c.index⟩

/-- Whether the guard is unconditional or its condition holds. -/
def fires (truth : Truth) (map : Map) (c : Candidate) : Bool :=
  c.guard.isUnconditional ||
    (Emission.expression "guard condition" c.guard.condition c.guard.line).toOption.any
      (truth (c.site map))

variable {V : Type}

/-- The body of the guard runs. The state is bound to `place`, and the parameters of the
transition that declares the guard are bound to `args` by position. -/
def Runs (m : Machine) (o : OutputOptions) (map : Map) (place : Place) (args : List V)
    (c : Candidate) (l : Landing V) : Prop :=
  ∃ b bs, Branch.ofGuard m o map c.state c.transition c.guard = .ok b ∧
    Binding.ofTransition c.transition = .ok bs ∧
    l = .body (c.site map) (frameOf bs place args) b.statements

end Candidate

variable {V : Type}

/-- The first of the candidates that fires has its body run; if none fires, `k` holds. -/
def FirstOf (truth : Truth) (m : Machine) (o : OutputOptions) (map : Map)
    (place : Place) (args : List V) (cs : List Candidate) (k : Landing V → Prop)
    (l : Landing V) : Prop :=
  match cs.find? (Candidate.fires truth map) with
  | some c => c.Runs m o map place args l
  | none => k l

section

variable {truth : Truth} {m : Machine} {o : OutputOptions} {map : Map} {place : Place}
  {args : List V} {k k' : Landing V → Prop} {l : Landing V}

/-- Without candidates, it is up to what comes after them. -/
@[simp] theorem firstOf_nil : FirstOf truth m o map place args [] k l ↔ k l :=
  Iff.rfl

/-- The first of two lists is the first of the one list, or else of the other. -/
theorem firstOf_append {cs ds : List Candidate} :
    FirstOf truth m o map place args (cs ++ ds) k l ↔
      FirstOf truth m o map place args cs (FirstOf truth m o map place args ds k) l := by
  unfold FirstOf
  rw [List.find?_append]
  cases cs.find? (Candidate.fires truth map) <;> rfl

/-- What comes after the candidates can be replaced by what amounts to the same. -/
theorem firstOf_congr {cs : List Candidate} (h : k l ↔ k' l) :
    FirstOf truth m o map place args cs k l ↔ FirstOf truth m o map place args cs k' l := by
  unfold FirstOf
  cases cs.find? (Candidate.fires truth map) with
  | none => exact h
  | some c => exact Iff.rfl

/-- A body runs in at most one way. -/
theorem Candidate.Runs.unique {c : Candidate} {l l' : Landing V}
    (h : c.Runs m o map place args l) (h' : c.Runs m o map place args l') : l = l' := by
  obtain ⟨b, bs, hb, hbs, rfl⟩ := h
  obtain ⟨b', bs', hb', hbs', rfl⟩ := h'
  obtain rfl := Except.ok.inj (hb.symm.trans hb')
  obtain rfl := Except.ok.inj (hbs.symm.trans hbs')
  rfl

/-- The arguments do not matter to a guard of a transition without parameters. -/
theorem Candidate.runs_of_parameters_eq_nil {c : Candidate}
    (hnone : c.transition.parameters = []) :
    c.Runs m o map place [] l ↔ c.Runs m o map place args l := by
  have hbs : ∀ bs, Binding.ofTransition c.transition = .ok bs → bs = [] := by
    intro bs hbs
    rw [Binding.ofTransition, hnone] at hbs
    exact (Except.ok.inj hbs).symm
  have hframe : frameOf [] place ([] : List V) = frameOf [] place args := rfl
  constructor
  · rintro ⟨b, bs, hb, hok, rfl⟩
    obtain rfl := hbs bs hok
    exact ⟨b, [], hb, hok, by rw [hframe]⟩
  · rintro ⟨b, bs, hb, hok, rfl⟩
    obtain rfl := hbs bs hok
    exact ⟨b, [], hb, hok, by rw [hframe]⟩

/-- A candidate of a transition is one of its guards. -/
theorem Candidate.mem_ofTransition {s : State} {t : Transition} {c : Candidate}
    (h : c ∈ Candidate.ofTransition s t) :
    c.state = s ∧ c.transition = t ∧ t.guards[c.index]? = some c.guard := by
  obtain ⟨⟨g, i⟩, hmem, rfl⟩ := List.mem_map.mp h
  exact ⟨rfl, rfl, List.mk_mem_zipIdx_iff_getElem?.mp hmem⟩

/-- A candidate of a state for `name` is a guard of its transition of that name. -/
theorem Candidate.mem_ofState {name : String} {s : State} {c : Candidate}
    (h : c ∈ Candidate.ofState name s) :
    c.state = s ∧ c.transition ∈ s.transitions ∧ c.transition.name = name ∧
      c.guard ∈ c.transition.guards := by
  obtain ⟨t, ht, hc⟩ := List.mem_flatMap.mp h
  obtain ⟨rfl, rfl, hguard⟩ := Candidate.mem_ofTransition hc
  have hfind := Option.mem_toList.mp ht
  exact ⟨rfl, List.mem_of_find?_eq_some hfind, by simpa using List.find?_some hfind,
    List.mem_of_getElem? hguard⟩

/-- A state has the candidates of the transition that it declares. -/
theorem Candidate.ofState_eq_ofTransition {name : String} {s : State} {t : Transition}
    (h : s.transition? name = some t) :
    Candidate.ofState name s = Candidate.ofTransition s t := by
  simp [Candidate.ofState, h]

/-- A state has no candidates for a transition that it does not declare. -/
theorem Candidate.ofState_eq_nil {name : String} {s : State} (h : s.defines name = false) :
    Candidate.ofState name s = [] := by
  have hnone : s.transition? name = none := Option.isNone_iff_eq_none.mp (by
    simpa [State.defines] using h)
  simp [Candidate.ofState, hnone]

/-- Nor has the default state of a map. -/
theorem Candidate.ofDefault_eq_nil {name : String} (h : map.defaultDefines name = false) :
    Candidate.ofDefault map name = [] := by
  refine List.flatMap_eq_nil_iff.mpr fun d hd => Candidate.ofState_eq_nil ?_
  refine eq_false_of_ne_true fun hdefines => ?_
  rw [Map.defaultDefines_iff.mpr ⟨d, Option.mem_toList.mp hd, hdefines⟩] at h
  cases h

/-- What may answer one name in a state is declared under that name, in the state or in the
default state of its map. -/
theorem Candidate.mem_ofMap {s : State} (hs : s ∈ map.states) {name : String} {c : Candidate}
    (h : c ∈ Candidate.ofState name s ++ Candidate.ofDefault map name) :
    c.state ∈ map.allStates ∧ c.transition ∈ c.state.transitions ∧
      c.transition.name = name ∧ c.guard ∈ c.transition.guards := by
  rcases List.mem_append.mp h with h | h
  · obtain ⟨rfl, hrest⟩ := Candidate.mem_ofState h
    exact ⟨List.mem_append_right _ hs, hrest⟩
  · obtain ⟨d, hd, h⟩ := List.mem_flatMap.mp h
    obtain ⟨rfl, hrest⟩ := Candidate.mem_ofState h
    exact ⟨List.mem_append_left _ hd, hrest⟩

/-- Every candidate of a state is declared in the state or in the default state of its
map. -/
theorem Candidate.mem_all {s : State} (hs : s ∈ map.states) {name : String} {c : Candidate}
    (h : c ∈ Candidate.all map s name) :
    c.state ∈ map.allStates ∧ c.transition ∈ c.state.transitions ∧
      c.guard ∈ c.transition.guards := by
  rw [Candidate.all, List.append_assoc] at h
  rcases List.mem_append.mp h with h | h
  · obtain ⟨hstate, htransition, -, hguard⟩ := Candidate.mem_ofMap hs h
    exact ⟨hstate, htransition, hguard⟩
  · obtain ⟨hstate, htransition, -, hguard⟩ := Candidate.mem_ofMap hs h
    exact ⟨hstate, htransition, hguard⟩

end

/-! ### The choice of a handler -/

/-- The first elements that pass a test in two lists stand at one position, if the elements
of the lists pass it alike. -/
theorem find?_zipIdx_of_forall₂ {α β : Type} {R : α → β → Prop} {xs : List α} {ys : List β}
    {f : α × Nat → Bool} {g : β × Nat → Bool} (h : List.Forall₂ R xs ys)
    (hfg : ∀ x y i, R x y → f (x, i) = g (y, i)) (n : Nat) :
    ((xs.zipIdx n).find? f = none ∧ (ys.zipIdx n).find? g = none) ∨
      ∃ x y i, R x y ∧ (xs.zipIdx n).find? f = some (x, i) ∧
        (ys.zipIdx n).find? g = some (y, i) := by
  induction h generalizing n with
  | nil => exact .inl ⟨rfl, rfl⟩
  | @cons x y xs ys hxy _ ih =>
      have htest := hfg x y n hxy
      rw [List.zipIdx_cons, List.zipIdx_cons, List.find?_cons, List.find?_cons, htest]
      cases g (y, n) with
      | true => exact .inr ⟨x, y, n, hxy, rfl, rfl⟩
      | false => exact ih (n + 1)

/-- A branch is taken when its guard is unconditional or the condition of its guard holds. -/
theorem Branch.all_condition_of_ofGuard {m : Machine} {o : OutputOptions} {map : Map}
    {s : State} {t : Transition} {g : Guard} {b : Branch}
    (h : Branch.ofGuard m o map s t g = .ok b) (holds : Rust.Fragment → Bool) :
    b.condition.all holds =
      (g.isUnconditional ||
        (Emission.expression "guard condition" g.condition g.line).toOption.any holds) := by
  simp only [Branch.ofGuard, bind_eq_ok_iff, pure, Except.pure, Except.ok.injEq] at h
  obtain ⟨_, -, _, -, _, -, condition, hcondition, rfl⟩ := h
  unfold Branch.conditionOf at hcondition
  split_ifs at hcondition with hguard
  · obtain rfl := Except.ok.inj hcondition
    rw [hguard]
    rfl
  · obtain ⟨e, he, hcondition⟩ := bind_eq_ok_iff.mp hcondition
    obtain rfl := Except.ok.inj hcondition
    rw [he, eq_false_of_ne_true hguard]
    rfl

/-- **What the handler of a declared transition chooses**: the branch of the first guard that
fires, or to forward. -/
theorem Handler.choice_of_ofTransition {m : Machine} {o : OutputOptions} {map : Map}
    {s : State} {t : Transition} {h : Handler} (hok : Handler.ofTransition m o map s t = .ok h)
    (truth : Truth) :
    (∃ g i b, (Candidate.ofTransition s t).find? (Candidate.fires truth map) = some ⟨s, t, g, i⟩ ∧
      Branch.ofGuard m o map s t g = .ok b ∧ h.choice truth = .take i b) ∨
    ∃ f, (Candidate.ofTransition s t).find? (Candidate.fires truth map) = none ∧
      Forward.ofState map s t (h.parameters.map Binding.name) = .ok f ∧
      h.choice truth = .forward f := by
  obtain ⟨hname, -, bs, otherwise, hbody, hbs, hotherwise⟩ :=
    Handler.ofTransition_eq_ok_iff.mp hok
  have hkey : h.name.key = map.handlerKey s t := (HandlerName.make_eq_ok_iff.mp hname).1
  have hfires : ∀ (g : Guard) (b : Branch) (i : Nat), Branch.ofGuard m o map s t g = .ok b →
      Candidate.fires truth map ⟨s, t, g, i⟩ = b.condition.all (truth ⟨h.name.key, i⟩) := by
    intro g b i hb
    rw [Branch.all_condition_of_ofGuard hb, hkey]
    rfl
  have hfind := find?_zipIdx_of_forall₂
    (f := fun gi => Candidate.fires truth map ⟨s, t, gi.1, gi.2⟩)
    (g := fun bi => bi.1.condition.all (truth ⟨h.name.key, bi.2⟩))
    (mapM_eq_ok_iff.mp hbs) hfires 0
  unfold Candidate.ofTransition Handler.choice
  rw [List.find?_map, hbody]
  rcases hfind with ⟨hguards, hbranches⟩ | ⟨g, b, i, hb, hguards, hbranches⟩
  · -- no guard fires, so none is unconditional, and the handler has a forward
    have hconditional : t.hasUnconditionalGuard ≠ true := by
      intro hguard
      obtain ⟨g, hg, hgtrue⟩ := List.any_eq_true.mp hguard
      obtain ⟨i, hi⟩ := List.getElem?_of_mem hg
      exact List.find?_eq_none.mp hguards (g, i) (List.mk_mem_zipIdx_iff_getElem?.mpr hi)
        (by simp [Candidate.fires, hgtrue])
    rcases hotherwise with ⟨hguard, -⟩ | ⟨f, -, rfl, hf⟩
    · exact absurd hguard hconditional
    · refine .inr ⟨f, ?_, hf, ?_⟩
      · exact Option.map_eq_none_iff.mpr hguards
      · simp only [hbranches]
        rfl
  · refine .inl ⟨g, i, b, ?_, hb, ?_⟩
    · exact Option.map_eq_some_iff.mpr ⟨(g, i), hguards, rfl⟩
    · simp only [hbranches]

/-! ### The chain of forwards -/

/-- The call that is left of the transition `name` when the default state does not take
it. -/
def afterDefault (name : String) (place : Place) : Call V :=
  if name = State.defaultTransition then .unhandled [.state place]
  else .defaultTransition (passed place [])

/-- The call that is left of the transition `name` when the state `s` does not take it. -/
def afterState (map : Map) (s : State) (name : String) (place : Place) (args : List V) :
    Call V :=
  if s.isDefault then afterDefault name place
  else .handler ⟨map.name, State.defaultName, name⟩ (passed place args)

/-- The first call for the transition `name` in the state `s`. -/
def entry (map : Map) (s : State) (name : String) (place : Place) (args : List V) : Call V :=
  match handlingClass? map s name with
  | some stateClass => .handler ⟨map.name, stateClass, name⟩ (passed place args)
  | none => afterDefault name place

/-- A default state forwards to what comes after it. -/
@[simp] theorem call?_ofDefault {name : String} {bs : List Binding} {place : Place}
    {args : List V} :
    (Forward.ofDefault name).call? (frameOf bs place args) = some (afterDefault name place) := by
  unfold Forward.ofDefault afterDefault
  split_ifs
  · exact call?_unhandled
  · exact call?_defaultTransition

/-- Any state forwards to what comes after it. -/
theorem call?_ofState {map : Map} {s : State} {t : Transition} {bs : List Binding}
    {place : Place} {args : List V} {f : Forward} (hnodup : (Binding.handlerNames bs).Nodup)
    (hlength : bs.length = args.length)
    (hf : Forward.ofState map s t (bs.map Binding.name) = .ok f) :
    f.call? (frameOf bs place args) = some (afterState map s t.name place args) := by
  unfold Forward.ofState at hf
  unfold afterState
  split_ifs at hf ⊢
  · obtain rfl := Except.ok.inj hf
    exact call?_ofDefault
  · obtain ⟨target, htarget, hf⟩ := bind_eq_ok_iff.mp hf
    obtain rfl := Except.ok.inj hf
    rw [call?_handler_of_passed hnodup hlength, (HandlerName.make_eq_ok_iff.mp htarget).1]

section

variable {v : Validated} {o : OutputOptions} {p : Program} (hmakes : v.Makes o p)
  (hwf : v.machine.WellFormed)
  {truth : Truth} {map : Map} {place : Place} {args : List V} {l : Landing V}

include hmakes hwf

/-- No two handlers of a program share a key. -/
theorem nodup_map_key_handlers : (p.handlers.map (·.name.key)).Nodup := by
  rw [hmakes.map_key_handlers]
  exact hwf.nodup_handlerKeys

/-- **What a declared transition contributes**: the first of its guards, or else what comes
after its state. -/
theorem lands_declared_iff (happart : v.machine.ParametersApart) (hmap : map ∈ v.machine.maps)
    {s : State} (hs : s ∈ map.allStates) {t : Transition} (ht : t ∈ s.transitions)
    (hargs : t.parameters.length = args.length) :
    Lands p truth (.handler (map.handlerKey s t) (passed place args)) l ↔
      FirstOf truth v.machine o map place args (Candidate.ofTransition s t)
        (Lands p truth (afterState map s t.name place args)) l := by
  obtain ⟨h, hmem, hok⟩ := hmakes.exists_handler hmap hs ht
  obtain ⟨hname, hbs, -⟩ := Handler.ofTransition_eq_ok_iff.mp hok
  have hkey : h.name.key = map.handlerKey s t := (HandlerName.make_eq_ok_iff.mp hname).1
  have hlength : h.parameters.length = args.length :=
    (Binding.length_ofTransition hbs).trans hargs
  have hnodup := happart map hmap s hs t ht _ hbs
  rw [← hkey, lands_handler_iff (nodup_map_key_handlers hmakes hwf) hmem (enter_passed hlength)]
  unfold FirstOf
  rcases Handler.choice_of_ofTransition hok truth with
    ⟨g, i, b, hfind, hb, hchoice⟩ | ⟨f, hfind, hf, hchoice⟩
  · rw [hfind, hchoice]
    constructor
    · rintro rfl
      exact ⟨b, h.parameters, hb, hbs, by rw [hkey]; rfl⟩
    · rintro ⟨b', bs, hb', hbs', rfl⟩
      obtain rfl := Except.ok.inj (hb.symm.trans hb')
      obtain rfl := Except.ok.inj (hbs.symm.trans hbs')
      rw [hkey]
      rfl
  · simp only [hfind, hchoice, call?_ofState hnodup hlength hf, Option.some.injEq,
      exists_eq_left']

/-- A derived handler contributes nothing. -/
theorem lands_derived_iff (hmap : map ∈ v.machine.maps) {t : Transition}
    (ht : t ∈ map.undefinedDefaultTransitions) (hargs : t.parameters.length = args.length) :
    Lands p truth (.handler (map.derivedKey t) (passed place args)) l ↔
      Lands p truth (afterDefault t.name place) l := by
  obtain ⟨h, hmem, hok⟩ := hmakes.exists_derived_handler hmap ht
  obtain ⟨hname, hbs, hbody⟩ := Handler.forwarding_eq_ok_iff.mp hok
  have hkey : h.name.key = map.derivedKey t := (HandlerName.make_eq_ok_iff.mp hname).1
  have hlength : h.parameters.length = args.length :=
    (Binding.length_ofTransition hbs).trans hargs
  have hchoice : h.choice truth = .forward (.ofDefault t.name) := by
    unfold Handler.choice
    rw [hbody]
  rw [← hkey, lands_handler_iff (nodup_map_key_handlers hmakes hwf) hmem (enter_passed hlength)]
  simp only [hchoice, call?_ofDefault, Option.some.injEq, exists_eq_left']

/-- **What the default state of a map contributes**, whether it declares the transition or
another state of the map does. -/
theorem lands_default_iff (happart : v.machine.ParametersApart) (hmap : map ∈ v.machine.maps)
    {name : String} (hdeclared : map.hasDefaultHandler name = true)
    (hargs : ∀ s ∈ map.allStates, ∀ t ∈ s.transitions, t.name = name →
      t.parameters.length = args.length) :
    Lands p truth (.handler ⟨map.name, State.defaultName, name⟩ (passed place args)) l ↔
      FirstOf truth v.machine o map place args (Candidate.ofDefault map name)
        (Lands p truth (afterDefault name place)) l := by
  cases hdefault : map.defaultDefines name with
  | true =>
      obtain ⟨d, hd, hdefines⟩ := Map.defaultDefines_iff.mp hdefault
      obtain ⟨t, ht⟩ := Option.isSome_iff_exists.mp hdefines
      have hmem : d ∈ map.allStates := List.mem_append_left _ (Option.mem_toList.mpr hd)
      have htmem : t ∈ d.transitions := List.mem_of_find?_eq_some ht
      have htname : t.name = name := by simpa using List.find?_some ht
      have hisDefault : d.isDefault = true := (hwf.maps map hmap).isDefault d hd
      have hcandidates : Candidate.ofDefault map name = Candidate.ofTransition d t := by
        rw [Candidate.ofDefault, hd, Option.toList_some, List.flatMap_singleton,
          Candidate.ofState_eq_ofTransition ht]
      have hkey : map.handlerKey d t = ⟨map.name, State.defaultName, name⟩ := by
        rw [Map.handlerKey, State.className_of_isDefault hisDefault, htname]
      have hafter : afterState map d t.name place args = afterDefault name place := by
        rw [afterState, if_pos hisDefault, htname]
      rw [hcandidates, ← hkey, lands_declared_iff hmakes hwf happart hmap hmem htmem
        (hargs d hmem t htmem htname), hafter]
  | false =>
      obtain ⟨u, hu, huname⟩ := Map.exists_derived hdeclared hdefault
      obtain ⟨-, s, hs, husmem⟩ := Map.mem_undefinedDefaultTransitions hu
      have hkey : map.derivedKey u = ⟨map.name, State.defaultName, name⟩ := by
        rw [Map.derivedKey, huname]
      rw [Candidate.ofDefault_eq_nil hdefault, firstOf_nil, ← hkey,
        lands_derived_iff hmakes hwf hmap hu
          (hargs s (List.mem_append_right _ hs) u husmem huname), huname]

/-- **What a state and the default state of its map contribute together.** -/
theorem lands_entry_iff (happart : v.machine.ParametersApart) (hmap : map ∈ v.machine.maps)
    {s : State} (hs : s ∈ map.states) {name : String}
    (hargs : ∀ s ∈ map.allStates, ∀ t ∈ s.transitions, t.name = name →
      t.parameters.length = args.length) :
    Lands p truth (entry map s name place args) l ↔
      FirstOf truth v.machine o map place args
        (Candidate.ofState name s ++ Candidate.ofDefault map name)
        (Lands p truth (afterDefault name place)) l := by
  have hmem : s ∈ map.allStates := List.mem_append_right _ hs
  unfold entry handlingClass?
  cases hdefines : s.transition? name with
  | some t =>
      have htmem : t ∈ s.transitions := List.mem_of_find?_eq_some hdefines
      have htname : t.name = name := by simpa using List.find?_some hdefines
      have hdeclared : map.hasDefaultHandler name = true :=
        Map.hasDefaultHandler_iff.mpr ⟨s, hmem, State.defines_iff.mpr ⟨t, htmem, htname⟩⟩
      have hafter : afterState map s t.name place args =
          .handler ⟨map.name, State.defaultName, name⟩ (passed place args) := by
        have hordinary := (hwf.maps map hmap).ordinary s hs
        rw [afterState, if_neg (by simp [hordinary]), htname]
      have hkey : map.handlerKey s t = ⟨map.name, s.className, name⟩ := by
        rw [Map.handlerKey, htname]
      rw [if_pos (by simp [State.defines, hdefines])]
      simp only
      rw [firstOf_append, Candidate.ofState_eq_ofTransition hdefines, ← hkey,
        lands_declared_iff hmakes hwf happart hmap hmem htmem (hargs s hmem t htmem htname),
        hafter]
      exact firstOf_congr (lands_default_iff hmakes hwf happart hmap hdeclared hargs)
  | none =>
      have hundefined : s.defines name = false := by simp [State.defines, hdefines]
      rw [if_neg (by simp [hundefined]), Candidate.ofState_eq_nil hundefined, List.nil_append]
      cases hdeclared : map.hasDefaultHandler name with
      | true => exact lands_default_iff hmakes hwf happart hmap hdeclared hargs
      | false =>
          rw [Candidate.ofDefault_eq_nil (Map.defaultDefines_of_hasDefaultHandler hdeclared)]
          exact Iff.rfl

/-- The dispatcher of `Default` transitions calls what the state and its default state have
for `Default`. -/
theorem lands_dispatcher_iff {s : State} (hs : (map, s) ∈ v.machine.states) :
    Lands p truth (.defaultTransition (passed (.ofState map s) [])) l ↔
      Lands p truth (entry map s State.defaultTransition (.ofState map s) ([] : List V)) l := by
  obtain ⟨d, hd, hok⟩ := exists_of_mapM_eq_ok hmakes.dispatch hs
  obtain ⟨hplace, hfallback⟩ := Dispatch.ofState_eq_ok hok
  have hplaces : (p.dispatch.map (·.variant.place)).Nodup := by
    rw [hmakes.map_place_dispatch]
    exact hwf.nodup_places
  rw [lands_defaultTransition_iff hplaces hd hplace]
  unfold entry
  cases hclass : handlingClass? map s State.defaultTransition with
  | some stateClass =>
      simp only [hclass] at hfallback
      obtain ⟨target, htarget, hforward⟩ := hfallback
      have hkey := (HandlerName.make_eq_ok_iff.mp htarget).1
      simp only [hforward, call?_handler_nil, hkey, Option.some.injEq, exists_eq_left']
  | none =>
      simp only [hclass] at hfallback
      simp only [hfallback, call?_unhandled, afterDefault, if_pos, Option.some.injEq,
        exists_eq_left']

/-- The method of a transition calls what the current state and its default state have for
it. -/
theorem executes_iff_lands_entry (happart : v.machine.ParametersApart) {s : State}
    (hs : (map, s) ∈ v.machine.states) {map' : Map} (hmap' : map' ∈ v.machine.maps)
    {s' : State} (hs' : s' ∈ map'.allStates) {t : Transition} (ht : t ∈ s'.transitions)
    (hname : t.name ≠ State.defaultTransition) (hargs : args.length = t.parameters.length) :
    Executes p truth t.name (.ofState map s) args l ↔
      Lands p truth (entry map s t.name (.ofState map s) args) l := by
  obtain ⟨ts, hts, hmethods⟩ := Method.ofMachine_eq_ok_iff.mp hmakes.methods
  obtain ⟨u, hu, huname, hutypes⟩ := exists_mem_publicTransitions hts hmap' hs' ht hname
  obtain ⟨method, hmethod, hok⟩ := exists_of_mapM_eq_ok hmethods hu
  obtain ⟨htransition, -, hbs, harms⟩ := Method.ofTransition_eq_ok_iff.mp hok
  obtain ⟨arm, harm, harmOk⟩ := exists_of_mapM_eq_ok harms hs
  obtain ⟨hplace, hforward⟩ := Arm.ofState_eq_ok harmOk
  have hlength : method.parameters.length = args.length := by
    rw [Binding.length_ofTransition hbs, length_parameters_of_types hutypes, hargs]
  have hnodup : (Binding.handlerNames method.parameters).Nodup := by
    obtain ⟨-, map'', hmap'', s'', hs'', hu''⟩ := exists_of_mem_publicTransitions hts hu
    exact happart map'' hmap'' s'' hs'' u hu'' _ hbs
  have hplaces : (method.arms.map (·.variant.place)).Nodup := by
    rw [Method.map_place_arms hok]
    exact hwf.nodup_places
  rw [← huname, ← htransition, executes_iff (Method.nodup_map_transition hmakes.methods) hmethod
    hplaces harm hplace hlength, htransition, huname]
  rw [huname] at hforward
  unfold entry
  cases hclass : handlingClass? map s t.name with
  | some stateClass =>
      simp only [hclass] at hforward
      obtain ⟨target, htarget, hforward⟩ := hforward
      have hkey := (HandlerName.make_eq_ok_iff.mp htarget).1
      simp only [hforward, call?_handler_methodFrame hnodup hlength, hkey, Option.some.injEq,
        exists_eq_left']
  | none =>
      simp only [hclass] at hforward
      simp only [hforward, call?_defaultTransition_methodFrame, afterDefault, if_neg hname,
        Option.some.injEq, exists_eq_left']

end

end Program

/-! ### The first guard answers -/

/-- An ordinary state of a machine is one of a map. -/
theorem Machine.mem_states_iff {m : Machine} {map : Map} {s : State} :
    (map, s) ∈ m.states ↔ map ∈ m.maps ∧ s ∈ map.states := by
  simp [Machine.states]

section

variable {V : Type} {m : Machine} {v : Validated} {o : OutputOptions} {p : Program}

/-- For a transition without parameters it does not matter what is passed. -/
theorem firstOf_of_parameters_eq_nil {truth : Truth} {map : Map} {place : Place}
    {args : List V} {cs : List Candidate} {k : Landing V → Prop} {l : Landing V}
    (h : ∀ c ∈ cs, c.transition.parameters = []) :
    FirstOf truth m o map place [] cs k l ↔ FirstOf truth m o map place args cs k l := by
  unfold FirstOf
  cases hfind : cs.find? (Candidate.fires truth map) with
  | none => exact Iff.rfl
  | some c => exact Candidate.runs_of_parameters_eq_nil (h c (List.mem_of_find?_eq_some hfind))

/-- Every candidate of a state has a body. -/
theorem Program.Candidate.exists_runs (hmakes : v.Makes o p) {map : Map}
    (hmap : map ∈ v.machine.maps) {s : State} (hs : s ∈ map.states) {name : String}
    {c : Candidate} (hc : c ∈ Candidate.all map s name) (place : Place) (args : List V) :
    ∃ l, c.Runs v.machine o map place args l := by
  obtain ⟨hstate, htransition, hguard⟩ := Candidate.mem_all hs hc
  obtain ⟨h, -, hok⟩ := hmakes.exists_handler hmap hstate htransition
  obtain ⟨-, hbs, branches, -, -, hbranches, -⟩ := Handler.ofTransition_eq_ok_iff.mp hok
  obtain ⟨b, -, hb⟩ := exists_of_mapM_eq_ok hbranches hguard
  exact ⟨_, b, h.parameters, hb, hbs, rfl⟩

/-- The method of a declared transition takes the first candidate that fires. -/
theorem executes_iff_firstOf (hmakes : v.Makes o p) (hwf : v.machine.WellFormed)
    (happart : v.machine.ParametersApart) {truth : Truth} {map : Map} {s : State}
    (hs : (map, s) ∈ v.machine.states) {map' : Map} (hmap' : map' ∈ v.machine.maps)
    {s' : State} (hs' : s' ∈ map'.allStates) {t : Transition} (ht : t ∈ s'.transitions)
    (hname : t.name ≠ State.defaultTransition) {args : List V}
    (hargs : args.length = t.parameters.length) {l : Landing V} :
    Executes p truth t.name (.ofState map s) args l ↔
      FirstOf truth v.machine o map (.ofState map s) args (Candidate.all map s t.name)
        (· = .unhandled (.ofState map s)) l := by
  obtain ⟨hmap, hsmem⟩ := Machine.mem_states_iff.mp hs
  obtain ⟨ts, hts, -⟩ := Method.ofMachine_eq_ok_iff.mp hmakes.methods
  have hdefault : ∀ u, u.name = State.defaultTransition → ∀ s ∈ map.allStates,
      u ∈ s.transitions → u.parameters = [] := fun u huname s hs hu =>
    parameters_eq_nil_of_default hts hmap hs hu huname
  have hown : ∀ s ∈ map.allStates, ∀ u ∈ s.transitions, u.name = t.name →
      u.parameters.length = args.length := by
    intro s hs u hu huname
    rw [length_parameters_of_name hts hmap hmap' hs hs' hu ht huname hname, hargs]
  have hnone : ∀ s ∈ map.allStates, ∀ u ∈ s.transitions,
      u.name = State.defaultTransition → u.parameters.length = ([] : List V).length := by
    intro s hs u hu huname
    rw [hdefault u huname s hs hu]
    rfl
  -- first the two lists of the transition, then the two of `Default`
  rw [executes_iff_lands_entry hmakes hwf happart hs hmap' hs' ht hname hargs,
    lands_entry_iff hmakes hwf happart hmap hsmem hown, Candidate.all, List.append_assoc]
  refine Iff.trans (firstOf_congr ?_) firstOf_append.symm
  rw [afterDefault, if_neg hname, lands_dispatcher_iff hmakes hwf hs,
    lands_entry_iff hmakes hwf happart hmap hsmem hnone]
  refine (firstOf_of_parameters_eq_nil fun c hc => ?_).trans (firstOf_congr ?_)
  · obtain ⟨hstate, hmem, huname, -⟩ := Candidate.mem_ofMap hsmem hc
    exact hdefault c.transition huname c.state hstate hmem
  · rw [afterDefault, if_pos rfl, lands_unhandled_iff]

/-- **The first guard that fires answers a transition.** For a machine that was put together
step by step, whatever conditions hold: the program stands in what is written of it, and the
method of a declared transition, called in an ordinary state, lands in exactly one way. It
runs the body of the first guard that is unconditional or holds, among those of the transition
and then those of `Default`, each time the state's own before those of the default state; if
there is no such guard, the transition is unhandled. -/
theorem dispatch_takes_first_guard (hbuilt : m.Built) (hvalid : m.validate = .ok v)
    (hprogram : v.program o = .ok p) (happart : m.ParametersApart) (truth : Truth)
    {map : Map} {s : State} (hs : (map, s) ∈ m.states) {map' : Map} (hmap' : map' ∈ m.maps)
    {s' : State} (hs' : s' ∈ map'.allStates) {t : Transition} (ht : t ∈ s'.transitions)
    (hname : t.name ≠ State.defaultTransition) {args : List V}
    (hargs : args.length = t.parameters.length) :
    p.StandsIn p.pieces ∧
      ∃ l, FirstOf truth m o map (.ofState map s) args (Candidate.all map s t.name)
          (· = .unhandled (.ofState map s)) l ∧
        ∀ l', Executes p truth t.name (.ofState map s) args l' ↔ l' = l := by
  obtain rfl := Machine.machine_of_validate hvalid
  have hmakes := Validated.makes_of_program hprogram
  refine ⟨hmakes.standsIn hbuilt.wellFormed, ?_⟩
  obtain ⟨hmap, hsmem⟩ := Machine.mem_states_iff.mp hs
  have hexecutes : ∀ l, Executes p truth t.name (.ofState map s) args l ↔
      FirstOf truth v.machine o map (.ofState map s) args (Candidate.all map s t.name)
        (· = .unhandled (.ofState map s)) l := fun l =>
    executes_iff_firstOf hmakes hbuilt.wellFormed happart hs hmap' hs' ht hname hargs
  cases hfind : (Candidate.all map s t.name).find? (Candidate.fires truth map) with
  | none =>
      refine ⟨.unhandled (.ofState map s), ?_, fun l => ?_⟩
      · rw [FirstOf, hfind]
      · rw [hexecutes, FirstOf, hfind]
  | some c =>
      obtain ⟨l, hl⟩ := Candidate.exists_runs hmakes hmap hsmem
        (List.mem_of_find?_eq_some hfind) (.ofState map s) args
      refine ⟨l, ?_, fun l' => ?_⟩
      · rw [FirstOf, hfind]
        exact hl
      · rw [hexecutes, FirstOf, hfind]
        exact ⟨fun hl' => hl'.unique hl, fun heq => heq ▸ hl⟩

end

/-! ### A gate -/

/-- The transition that opens the gate to the right key. -/
def gateUnlock : Transition :=
  { name := "open"
    parameters := [⟨"key", "u32", 1⟩]
    guards := [.make "key == 7" (.set (.named (.unqualified "Open"))) 1 []] }

/-- The closed gate can be opened. -/
def gateClosed : State := { className := "Closed", transitions := [gateUnlock] }

/-- The open gate declares nothing. -/
def gateOpen : State := { className := "Open" }

/-- Whatever a state of the gate does not answer is counted. -/
def gateDefault : State :=
  { className := "Default"
    transitions := [
      { name := "Default", guards := [.make "" (.set .nil) 2 [{ name := "count" }]] }] }

/-- The map of the gate. -/
def gateMap : Map :=
  { name := "Gate", states := [gateClosed, gateOpen], defaultState := some gateDefault }

/-- A gate that is closed at first. -/
def gate : Machine :=
  Machine.setStart { context := "Owner", maps := [gateMap] } "Gate::Closed" 0

/-- The gate can be put together. -/
theorem gate_built : gate.Built := by
  have hclosed : gateClosed.Built :=
    .addTransition (.new "Closed" 0)
      (.addGuard (.withParameters [⟨"key", "u32", 1⟩] (.new "open" 0))
        (.make "key == 7" _ 1 []) rfl) rfl
  have hdefault : gateDefault.Built :=
    .addTransition (.new "Default" 0) (.addGuard (.new "Default" 0) (.make "" _ 2 _) rfl) rfl
  have hfirst : (Map.mk "Gate" 0 [gateClosed] none).Built :=
    .addState (.new "Gate" 0) hclosed
      (Map.addState_eq_ok_iff.mpr (.inr ⟨by decide, by decide, rfl⟩))
  have hsecond : (Map.mk "Gate" 0 [gateClosed, gateOpen] none).Built :=
    .addState hfirst (.new "Open" 0)
      (Map.addState_eq_ok_iff.mpr (.inr ⟨by decide, by decide, rfl⟩))
  have hmap : gateMap.Built :=
    .addState hsecond hdefault (Map.addState_eq_ok_iff.mpr (.inl ⟨by decide, rfl, rfl⟩))
  exact .setStart "Gate::Closed" 0 (.addMap (.new "Owner") hmap rfl)

/-- Whether a machine is valid and has a program can be computed. -/
theorem Machine.exists_program {m : Machine} {o : OutputOptions}
    (hsome : (m.validate.toOption.bind fun v => (v.program o).toOption).isSome) :
    ∃ v p, m.validate = .ok v ∧ v.program o = .ok p := by
  obtain ⟨p, hp⟩ := Option.isSome_iff_exists.mp hsome
  obtain ⟨v, hv, hp⟩ := Option.bind_eq_some_iff.mp hp
  exact ⟨v, p, toOption_eq_some_iff.mp hv, toOption_eq_some_iff.mp hp⟩

/-- The gate is valid, and there is a program for it. -/
theorem gate_program : ∃ v p, gate.validate = .ok v ∧ v.program {} = .ok p :=
  Machine.exists_program (by decide +kernel)

set_option linter.constructorNameAsVariable false in
/-- With a wrong key, it is the `Default` transition of the default state that answers. -/
theorem gate_unlock_takes_default :
    ∃ v p, gate.Built ∧ gate.validate = .ok v ∧ v.program {} = .ok p ∧ gate.ParametersApart ∧
      p.StandsIn p.pieces ∧ ∃ frame statements, ∀ l,
        Executes p (fun _ _ => false) gateUnlock.name (.ofState gateMap gateClosed) [8] l ↔
          l = .body ⟨⟨"Gate", "Default", "Default"⟩, 0⟩ frame statements := by
  obtain ⟨v, p, hv, hp⟩ := gate_program
  have happart : gate.ParametersApart := by decide +kernel
  have hmap : gateMap ∈ gate.maps := List.mem_singleton_self _
  have hordinary : gateClosed ∈ gateMap.states := List.mem_cons_self
  have hs : (gateMap, gateClosed) ∈ gate.states := Machine.mem_states_iff.mpr ⟨hmap, hordinary⟩
  have hclosed : gateClosed ∈ gateMap.allStates := List.mem_append_right _ hordinary
  have ht : gateUnlock ∈ gateClosed.transitions := List.mem_singleton_self _
  have hname : gateUnlock.name ≠ State.defaultTransition := by decide
  have hargs : [8].length = gateUnlock.parameters.length := rfl
  obtain ⟨hstands, l, hl, hlands⟩ := dispatch_takes_first_guard gate_built hv hp happart
    (fun _ _ => false) hs hmap hclosed ht hname hargs
  have hfind : ((Candidate.all gateMap gateClosed gateUnlock.name).find?
      (Candidate.fires (fun _ _ => false) gateMap)).map (Candidate.site gateMap) =
        some ⟨⟨"Gate", "Default", "Default"⟩, 0⟩ := by
    decide +kernel
  obtain ⟨c, hc, hsite⟩ := Option.map_eq_some_iff.mp hfind
  rw [FirstOf, hc] at hl
  obtain ⟨b, bs, -, -, rfl⟩ := hl
  rw [hsite] at hlands
  exact ⟨v, p, gate_built, hv, hp, happart, hstands, _, _, hlands⟩

end StateMachine
