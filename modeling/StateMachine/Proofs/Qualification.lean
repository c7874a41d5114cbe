import StateMachine.Generation
import StateMachine.Proofs.Machine.Qualification
import StateMachine.Proofs.Program.Refusals

/-!
# Qualifying Targets Changes Nothing

A state that a guard names is looked up three times: by validation, by the search for unreachable
states, and by generation. Each time it is looked up from the map of the guard, so it makes no
difference whether the map is written in front.

## Proof strategy

Validation and the search look at places, lines and texts, and these are the same in a qualified
machine (`Machine.validate_qualify`). So does generation, as long as it finds what guards name: a
reference that means nothing is reported as it is written. In a valid machine there is none
(`Validated.program_qualify`).

## Main results

* `Machine.validate_qualify`: validation finds the same start state, qualified, and the same
  unreachable states, or reports the same defect.
* `Validated.program_qualify`: generation makes the same program, or fails for the same reason.
* `qualified_targets_change_nothing`: this holds of **every machine that can be put together**, and
  its qualified form can be put together as well.
-/

namespace StateMachine

/-! ### Validation -/

/-- What validation found out about a machine, said of its qualified form. -/
def Validated.qualify (v : Validated) : Validated :=
  { v with
    machine := v.machine.qualify
    startMap := v.startMap.qualify
    startState := v.startState.qualify v.startMap.name }

namespace Machine

variable (m : Machine)

/-- A qualified machine lacks what the machine lacks. -/
theorem missing?_qualify : m.qualify.missing? = m.missing? := by
  simp only [missing?, qualify, List.isEmpty_map]

/-- A start reference means the same state, qualified. -/
theorem resolveStart_qualify (start : Reference) :
    m.qualify.resolveStart start = (m.resolveStart start).map Location.qualify := by
  have hnamed : m.qualify.statesNamed start.state =
      (m.statesNamed start.state).map Location.qualify := by
    rw [statesNamed, states_qualify, List.filter_map]
    rfl
  rw [resolveStart, resolveStart]
  cases start.map with
  | some map =>
      simp only [resolve?_qualify]
      cases m.resolve? start map <;> rfl
  | none =>
      simp only [hnamed]
      rcases m.statesNamed start.state with _ | ⟨x, _ | ⟨y, rest⟩⟩ <;> rfl

/-- The same is wrong with a qualified reference. -/
theorem targetDefect?_qualify (map : Map) (line : Nat) (r : Reference) :
    m.qualify.targetDefect? map.qualify line (r.qualify map.name) =
      m.targetDefect? map line r := by
  rw [targetDefect?, resolve?_qualify_reference, Option.isSome_map, targetDefect?]
  rfl

/-- A pop can issue the same transitions. -/
theorem issuableNames_qualify : m.qualify.issuableNames = m.issuableNames := by
  have hnames : ∀ ts : List Transition,
      ts.map Transition.name = (ts.map Transition.heading).map Transition.name := fun ts => by
    rw [List.map_map]
    rfl
  rw [issuableNames, hnames, map_heading_transitions_qualify, ← hnames, issuableNames]

/-- The same is wrong with a qualified guard. -/
theorem guardDefects_qualify (issuable : List String) (map : Map) (g : Guard) :
    m.qualify.guardDefects issuable map.qualify (g.qualify map.name) =
      m.guardDefects issuable map g := by
  have htargets : m.qualify.targetDefect? map.qualify g.line ∘ Reference.qualify map.name =
      m.targetDefect? map g.line := funext fun r => m.targetDefect?_qualify map g.line r
  rw [guardDefects, Guard.references_qualify, Guard.popTransition?_qualify, List.filterMap_map]
  exact congrArg (g.references.filterMap · ++ _) htargets

/-- The same is wrong with all guards, in the same order. -/
theorem allGuardDefects_qualify : m.qualify.allGuardDefects = m.allGuardDefects := by
  have hmaps : m.qualify.maps = m.maps.map Map.qualify := rfl
  simp only [allGuardDefects, issuableNames_qualify, hmaps, List.flatMap_map,
    Map.allStates_qualify, State.guards_qualify, guardDefects_qualify]

/-- A qualified guard names the same places. -/
theorem guardPlaces_qualify (map : Map) (g : Guard) :
    m.qualify.guardPlaces map.qualify (g.qualify map.name) = m.guardPlaces map g := by
  rw [guardPlaces, Guard.references_qualify, List.filterMap_map, guardPlaces]
  refine List.filterMap_congr fun r _ => ?_
  rw [Function.comp_apply, resolve?_qualify_reference, Option.map_map]
  rfl

/-- The same guards may be taken in a state, qualified. -/
theorem guardsAt_qualify (map : Map) (s : State) :
    guardsAt map.qualify (s.qualify map.name) =
      (guardsAt map s).map (Guard.qualify map.name) := by
  simp only [guardsAt, State.guards_qualify, Map.qualify, Option.toList_map, List.flatMap_map,
    List.map_append, List.map_flatMap]

/-- Places lead to the same places. -/
theorem successors_qualify : m.qualify.successors = m.successors := by
  funext p
  rw [successors, resolve?_qualify, successors]
  cases m.resolve? (.qualified p.map p.state) p.map with
  | none => rfl
  | some x =>
      simp only [Option.map_some, Location.qualify, guardsAt_qualify, List.flatMap_map,
        guardPlaces_qualify]

/-- So the same places are reached. -/
theorem unreachablePlaces_qualify (start : Place) :
    m.qualify.unreachablePlaces start = m.unreachablePlaces start := by
  rw [unreachablePlaces, successors_qualify, places_qualify, unreachablePlaces]

/-- **Validation of a qualified machine** finds the same, or reports the same defect. -/
theorem validate_qualify : m.qualify.validate = m.validate.map Validated.qualify := by
  have hstart : m.qualify.startReference? = m.startReference? := rfl
  rw [validate, validate, missing?_qualify, allGuardDefects_qualify, hstart]
  cases m.missing? with
  | some part => rfl
  | none =>
      cases m.startReference? with
      | none => rfl
      | some start =>
          simp only [resolveStart_qualify]
          cases m.resolveStart start with
          | error defect => rfl
          | ok x =>
              cases m.allGuardDefects with
              | cons defect rest => rfl
              | nil =>
                  simp only [Except.map, unreachablePlaces_qualify]
                  rfl

end Machine

/-! ### Generation -/

namespace Program

variable {m : Machine} {o : OutputOptions} {map : Map}

/-- A reference that means a state is the same variant when it is qualified. -/
theorem Variant.ofReference_qualify {r : Reference} (h : (m.resolve? r map.name).isSome)
    (line : Nat) :
    Variant.ofReference m.qualify map.qualify line (r.qualify map.name) =
      Variant.ofReference m map line r := by
  obtain ⟨x, hx⟩ := Option.isSome_iff_exists.mp h
  rw [Variant.ofReference, m.resolve?_qualify_reference, hx, Variant.ofReference, hx]
  rfl

section Guard

variable {g : Guard} (h : ∀ r ∈ g.references, (m.resolve? r map.name).isSome)
include h

/-- A guard whose states exist makes the same move when it is qualified. -/
theorem Move.ofGuard_qualify (target : Option Variant) :
    Move.ofGuard m.qualify map.qualify (g.qualify map.name) target =
      Move.ofGuard m map g target := by
  obtain ⟨condition, transfer, actions, line⟩ := g
  cases transfer with
  | set target => rfl
  | push target pushed =>
      have hpushed : (m.resolve? pushed map.name).isSome := h pushed (by
        simp only [Guard.references, Guard.pushed?, Option.toList_some, List.mem_append,
          List.mem_singleton, or_true])
      simp only [Move.ofGuard, Guard.qualify, Transfer.qualify, Variant.ofReference_qualify hpushed]
  | pop transition arguments => rfl

/-- It has the same target. -/
theorem endVariant_qualify :
    (g.qualify map.name).endReference?.mapM
        (Variant.ofReference m.qualify map.qualify (g.qualify map.name).line) =
      g.endReference?.mapM (Variant.ofReference m map g.line) := by
  rw [Guard.endReference?_qualify]
  cases hend : g.endReference? with
  | none => rfl
  | some r =>
      have hr : (m.resolve? r map.name).isSome := h r (by
        simp only [Guard.references, hend, Option.toList_some, List.singleton_append,
          List.mem_cons, true_or])
      simp only [Option.map_some, Option.mapM_some, Variant.ofReference_qualify hr]
      rfl

/-- **It is the same branch.** -/
theorem Branch.ofGuard_qualify (s : State) (t : Transition) :
    Branch.ofGuard m.qualify o map.qualify (s.qualify map.name) (t.qualify map.name)
        (g.qualify map.name) =
      Branch.ofGuard m o map s t g := by
  simp only [Branch.ofGuard, endVariant_qualify h, Move.ofGuard_qualify h]
  rfl

end Guard

/-- A transition whose guards lead to states has the same handler when it is qualified. -/
theorem Handler.ofTransition_qualify {t : Transition} (s : State)
    (h : ∀ g ∈ t.guards, ∀ r ∈ g.references, (m.resolve? r map.name).isSome) :
    Handler.ofTransition m.qualify o map.qualify (s.qualify map.name) (t.qualify map.name) =
      Handler.ofTransition m o map s t := by
  have hbranches : (t.qualify map.name).guards.mapM
      (Branch.ofGuard m.qualify o map.qualify (s.qualify map.name) (t.qualify map.name)) =
        t.guards.mapM (Branch.ofGuard m o map s t) := by
    rw [Transition.qualify, List.mapM_map]
    exact mapM_congr fun g hg => Branch.ofGuard_qualify (h g hg) s t
  rw [Handler.ofTransition, hbranches, Transition.hasUnconditionalGuard_qualify]
  rfl

/-- A state whose guards lead to states has the same handlers when it is qualified. -/
theorem Handler.ofState_qualify {s : State}
    (h : ∀ g ∈ s.guards, ∀ r ∈ g.references, (m.resolve? r map.name).isSome) :
    Handler.ofState m.qualify o map.qualify (s.qualify map.name) = Handler.ofState m o map s := by
  rw [Handler.ofState, State.qualify, List.mapM_map, Handler.ofState]
  exact mapM_congr fun t ht => Handler.ofTransition_qualify s fun g hg =>
    h g (List.mem_flatMap.mpr ⟨t, ht, hg⟩)

/-- A map whose guards lead to states has the same handlers when it is qualified. -/
theorem Handler.ofMap_qualify
    (h : ∀ s ∈ map.allStates, ∀ g ∈ s.guards, ∀ r ∈ g.references,
      (m.resolve? r map.name).isSome) :
    Handler.ofMap m.qualify o map.qualify = Handler.ofMap m o map := by
  have hstates : ∀ ss : List State, (∀ s ∈ ss, s ∈ map.allStates) →
      (ss.map (State.qualify map.name)).mapM (Handler.ofState m.qualify o map.qualify) =
        ss.mapM (Handler.ofState m o map) := fun ss hss => by
    rw [List.mapM_map]
    exact mapM_congr fun s hs => Handler.ofState_qualify (h s (hss s hs))
  have hderived : map.qualify.undefinedDefaultTransitions.mapM (Handler.forwarding map.qualify) =
      map.undefinedDefaultTransitions.mapM (Handler.forwarding map) := by
    rw [Map.undefinedDefaultTransitions_qualify, List.mapM_map]
    rfl
  have hdefault : map.qualify.defaultState.toList.mapM
      (Handler.ofState m.qualify o map.qualify) =
        map.defaultState.toList.mapM (Handler.ofState m o map) := by
    rw [Map.qualify, Option.toList_map]
    exact hstates _ fun s hs => List.mem_append_left _ hs
  have hordinary : map.qualify.states.mapM (Handler.ofState m.qualify o map.qualify) =
      map.states.mapM (Handler.ofState m o map) :=
    hstates _ fun s hs => List.mem_append_right _ hs
  rw [Handler.ofMap, hdefault, hderived, hordinary, Handler.ofMap]

/-! ### Methods and dispatch -/

/-- The states of a qualified machine are traversed like those of the machine. -/
theorem mapM_states_qualify {α : Type} {f : Map → State → Emission α}
    (h : ∀ map s, f map.qualify (s.qualify map.name) = f map s) :
    (m.qualify.states.mapM fun (map, s) => f map s) = m.states.mapM fun (map, s) => f map s := by
  rw [Machine.states_qualify, List.mapM_map]
  exact mapM_congr fun x _ => h x.1 x.2

/-- A qualified state is the same variant. -/
theorem Variant.ofState_qualify (map : Map) (s : State) (line : Nat) :
    Variant.ofState map.qualify (s.qualify map.name) line = Variant.ofState map s line :=
  rfl

/-- A transition is handled in the same class. -/
theorem handlingClass?_qualify (map : Map) (s : State) (name : String) :
    handlingClass? map.qualify (s.qualify map.name) name = handlingClass? map s name := by
  rw [handlingClass?, State.defines_qualify, Map.hasDefaultHandler_qualify, handlingClass?]
  rfl

/-- A qualified state has the same arm. -/
theorem Arm.ofState_qualify (t : Transition) (arguments : List Rust.Ident) (map : Map)
    (s : State) :
    Arm.ofState t arguments map.qualify (s.qualify map.name) = Arm.ofState t arguments map s := by
  simp only [Arm.ofState, handlingClass?_qualify, Variant.ofState_qualify]
  rfl

/-- A transition has the same method when the machine is qualified, and its guards do not
count. -/
theorem Method.ofTransition_qualify (t : Transition) :
    Method.ofTransition m.qualify t = Method.ofTransition m t.heading := by
  have harms := fun arguments => mapM_states_qualify (m := m) (Arm.ofState_qualify t arguments)
  simp only [Method.ofTransition, harms]
  rfl

/-- A state is searched for a `Default` transition with parameters by what it declares. -/
theorem defaultWithParameters?_heading (s : State) :
    defaultWithParameters? { s with transitions := s.transitions.map Transition.heading } =
      (defaultWithParameters? s).map Transition.heading :=
  List.find?_map ..

/-- The first `Default` transition with parameters is the same, but for its guards. -/
theorem defaultWithParameters?_qualify (m : Machine) :
    ((m.qualify.maps.flatMap Map.allStates).findSome? defaultWithParameters?).map
        Transition.heading =
      ((m.maps.flatMap Map.allStates).findSome? defaultWithParameters?).map
        Transition.heading := by
  have hheading : ∀ ss : List State, (ss.findSome? defaultWithParameters?).map
      Transition.heading = (ss.map fun s =>
        { s with transitions := s.transitions.map Transition.heading }).findSome?
          defaultWithParameters? := fun ss => by
    rw [List.map_findSome?, List.findSome?_map]
    exact congrArg (ss.findSome? ·) (funext fun s => (defaultWithParameters?_heading s).symm)
  rw [hheading, hheading]
  congr 1
  simp only [Machine.qualify, List.flatMap_map, List.map_flatMap, Map.allStates_qualify,
    List.map_map, Function.comp_def, State.qualify]
  rfl

/-- Two signatures of one name are told by names alone. -/
theorem map_heading_overloads (ts : List Transition) :
    (overloads ts).map Transition.heading = overloads (ts.map Transition.heading) := by
  induction ts with
  | nil => rfl
  | cons t rest ih =>
      cases rest with
      | nil => rfl
      | cons u rest =>
          rw [List.map_cons, List.map_cons, overloads, overloads, apply_ite (List.map _),
            List.map_cons, ih]
          rfl

/-- The transitions with a method, without their guards: each check looks at headings, and so
does the error that it reports. -/
theorem map_heading_publicTransitions (m : Machine) :
    List.map Transition.heading <$> publicTransitions m =
      let named :=
        (m.transitions.map Transition.heading).filter fun t => t.name ≠ State.defaultTransition
      match ((m.maps.flatMap Map.allStates).findSome? defaultWithParameters?).map
          Transition.heading with
      | some t => .error (signatureError .defaultParameters t)
      | none =>
        match overloads named with
        | t :: _ => .error (signatureError .overloaded t)
        | [] =>
          match named.find? fun t => reservedNames.contains t.name with
          | some t => .error (signatureError .reserved t)
          | none => .ok named := by
  have hname : ∀ p : String → Bool,
      (fun t => p (Transition.name t)) ∘ Transition.heading = fun t => p t.name := fun _ => rfl
  have hfilter := hname fun name => decide (name ≠ State.defaultTransition)
  simp only [List.filter_map, hfilter, ← map_heading_overloads, List.find?_map,
    hname reservedNames.contains, publicTransitions]
  cases (m.maps.flatMap Map.allStates).findSome? defaultWithParameters? with
  | some t => rfl
  | none =>
      generalize m.transitions.filter _ = named
      cases overloads named with
      | cons t rest => rfl
      | nil => cases named.find? fun t => reservedNames.contains t.name <;> rfl

/-- **The transitions with a method** are the same, but for their guards, or the same
transition cannot have one. -/
theorem publicTransitions_qualify (m : Machine) :
    List.map Transition.heading <$> publicTransitions m.qualify =
      List.map Transition.heading <$> publicTransitions m := by
  rw [map_heading_publicTransitions, map_heading_publicTransitions,
    defaultWithParameters?_qualify, Machine.map_heading_transitions_qualify]

/-- **The methods** are the same. -/
theorem Method.ofMachine_qualify (m : Machine) :
    Method.ofMachine m.qualify = Method.ofMachine m := by
  have hheading : ∀ (x : Emission (List Transition)) (f : Transition → Emission Method),
      (x >>= fun ts => ts.mapM fun t => f t.heading) =
        (List.map Transition.heading <$> x) >>= fun ts => ts.mapM f := fun x f => by
    cases x with
    | error e => rfl
    | ok ts => exact List.mapM_map.symm
  have hqualified : Method.ofMachine m.qualify =
      (publicTransitions m.qualify >>= fun ts => ts.mapM fun t =>
        Method.ofTransition m t.heading) :=
    congrArg (publicTransitions m.qualify >>= List.mapM ·)
      (funext fun t => Method.ofTransition_qualify t)
  rw [hqualified, hheading, publicTransitions_qualify, ← hheading]
  rfl

/-- A qualified state has the same dispatch. -/
theorem Dispatch.ofState_qualify (map : Map) (s : State) :
    Dispatch.ofState map.qualify (s.qualify map.name) = Dispatch.ofState map s := by
  simp only [Dispatch.ofState, handlingClass?_qualify, Variant.ofState_qualify]
  rfl

end Program

open Program in
/-- **Generation for a valid machine** makes the same program when the machine is qualified, or
fails for the same reason. -/
theorem Validated.program_qualify {m : Machine} {v : Validated} (h : m.validate = .ok v)
    (o : OutputOptions) : v.qualify.program o = v.program o := by
  have hm : v.machine = m := Machine.machine_of_validate h
  have hhandlers : m.qualify.maps.mapM (Handler.ofMap m.qualify o) =
      m.maps.mapM (Handler.ofMap m o) := by
    rw [Machine.qualify, List.mapM_map]
    exact mapM_congr fun map hmap => Handler.ofMap_qualify fun s hs g hg r hr =>
      Machine.isSome_resolve?_of_mem h hmap hs hg hr
  have hvariants := mapM_states_qualify (m := m)
    (f := fun map s => Variant.ofState map s s.line) fun map s => rfl
  have hdispatch := mapM_states_qualify (m := m) Dispatch.ofState_qualify
  simp only [Validated.program, Validated.qualify, hm, hhandlers, hvariants, hdispatch,
    Method.ofMachine_qualify, Variant.ofState_qualify]
  rfl

/-- **Qualifying targets changes nothing.** If a machine can be put together, so can its qualified
form, in which every target is written with a map. Validation reports the same defect for both, or
finds the same start state, qualified, and the same unreachable states; and then generation makes
the same program for both, or fails for the same reason. What is written out is the same too. -/
theorem qualified_targets_change_nothing {m : Machine} (hbuilt : m.Built) :
    m.qualify.Built ∧
    (∀ map ∈ m.qualify.maps, ∀ s ∈ map.allStates, ∀ g ∈ s.guards, ∀ r ∈ g.references,
      r.map.isSome) ∧
    (∀ d, m.validate = .error d → m.qualify.validate = .error d) ∧
    (∀ v, m.validate = .ok v →
      ∃ v', m.qualify.validate = .ok v' ∧ v'.startMap = v.startMap.qualify ∧
        v'.startState = v.startState.qualify v.startMap.name ∧ v'.unreachable = v.unreachable ∧
        ∀ o, v'.program o = v.program o) ∧
    ∀ o, m.qualify.generate .rust o = m.generate .rust o := by
  refine ⟨hbuilt.qualify, fun map hmap s hs g hg r hr =>
    m.isSome_map_of_mem_qualify hmap hs hg hr, fun d hd => ?_, fun v hv => ?_, fun o => ?_⟩
  · rw [m.validate_qualify, hd]
    rfl
  · exact ⟨v.qualify, by rw [m.validate_qualify, hv]; rfl, rfl, rfl, rfl,
      Validated.program_qualify hv⟩
  · rw [Machine.generate, Machine.generate, m.validate_qualify]
    cases hv : m.validate with
    | error d => rfl
    | ok v =>
        have hhead : v.qualify.machine.head = v.machine.head := rfl
        simp only [Except.map, Validated.generate, Validated.program_qualify hv, hhead]

/-! ### A house with two storeys -/

/-- From the hall one goes to the stairs of the same storey. -/
def storeyHall : State :=
  { className := "Hall"
    transitions := [{
      name := "leave", guards := [.make "" (.set (.named (.unqualified "Stairs"))) 1 []] }] }

/-- From the stairs one goes up, or stays for a while, to go to the hall of the storey later. -/
def storeyStairs : State :=
  { className := "Stairs"
    transitions := [
      { name := "climb", guards := [.make "" (.set (.named (.qualified "Upper" "Hall"))) 2 []] },
      { name := "wait"
        guards := [
          .make "" (.push (.named (.unqualified "Hall")) (.unqualified "Stairs")) 3 []] }] }

/-- A storey. All storeys have states of the same names. -/
def storey (name : String) : Map :=
  { name, states := [storeyHall, storeyStairs] }

/-- A house with two storeys. -/
def house : Machine :=
  Machine.setStart { context := "Tenant", maps := [storey "Ground", storey "Upper"] }
    "Ground::Hall" 0

/-- The house can be put together. -/
theorem house_built : house.Built := by
  have hhall : storeyHall.Built :=
    .addTransition (.new "Hall" 0) (.addGuard (.new "leave" 0) (.make "" _ 1 _) rfl) rfl
  have hstairs : storeyStairs.Built :=
    .addTransition
      (.addTransition (.new "Stairs" 0) (.addGuard (.new "climb" 0) (.make "" _ 2 _) rfl) rfl)
      (.addGuard (.new "wait" 0) (.make "" _ 3 _) rfl)
      (State.addTransition_eq_ok_iff.mpr ⟨by decide, rfl⟩)
  have hstorey : ∀ name, (storey name).Built := fun name =>
    .addState
      (.addState (.new name 0) hhall
        (Map.addState_eq_ok_iff.mpr (.inr ⟨by decide, rfl, rfl⟩)))
      hstairs (Map.addState_eq_ok_iff.mpr (.inr ⟨by decide, rfl, rfl⟩))
  exact .setStart "Ground::Hall" 0
    (.addMap (.addMap (.new "Tenant") (hstorey "Ground") rfl) (hstorey "Upper")
      (Machine.addMap_eq_ok_iff.mpr ⟨by decide, rfl⟩))

/-- The stairs mean those of the own storey, whether this is written or not. -/
theorem house_storeys_written :
    house.Built ∧ house.qualify.maps ≠ house.maps ∧
      ∃ v p v', house.validate = .ok v ∧ v.program {} = .ok p ∧ house.qualify.validate = .ok v' ∧
        v'.unreachable = v.unreachable ∧ v'.program {} = .ok p := by
  have hchanged : (house.qualify.maps.flatMap fun map => map.allStates.flatMap State.guards) ≠
      house.maps.flatMap fun map => map.allStates.flatMap State.guards := by
    decide +kernel
  obtain ⟨v, p, hv, hp⟩ : ∃ v p, house.validate = .ok v ∧ v.program {} = .ok p :=
    Machine.exists_program (by decide +kernel)
  obtain ⟨-, -, -, hsame, -⟩ := qualified_targets_change_nothing house_built
  obtain ⟨v', hv', -, -, hunreachable, hprogram⟩ := hsame v hv
  exact ⟨house_built, fun hmaps => hchanged (by rw [hmaps]), v, p, v', hv, hp, hv',
    hunreachable, (hprogram {}).trans hp⟩

end StateMachine
