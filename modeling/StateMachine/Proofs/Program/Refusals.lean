import StateMachine.Proofs.Reachability

/-!
# What Generation Fails For

A program is made of texts of the description, and of references that have to mean something.
For a valid machine the references do: validation has looked up each of them from the map that
its guard is in, and this is the map that generation looks it up from. So generation fails for
texts that are not Rust, and for transitions that can have no method, and for nothing else.

## Main results

* `Program.Branch.failsOnly_ofGuard`: making a branch never fails for a reference that can be
  resolved.
* `Validated.failsOnly_program`: **generation of a valid machine** fails for what the description
  says, and never for a reference.
-/

namespace StateMachine

/-- Errors in the description itself: what it gives as Rust is not Rust, or a transition that it
declares can have no method. -/
inductive GenerationError.OfDescription : GenerationError → Prop
  | signature (transition : String) (problem : SignatureProblem) (line : Nat) :
      OfDescription (.signature transition problem line)
  | malformed (text : Rust.Malformed) : OfDescription (.malformed text)
  | missingValue (property : String) (line : Nat) : OfDescription (.missingValue property line)

open GenerationError (OfDescription)

/-- A text that is read is all that is at fault. -/
theorem failsOnly_malformed {α : Type} (x : Except Rust.Malformed α) :
    FailsOnly OfDescription (x.mapError .malformed) :=
  .mapError .malformed x

namespace Program

variable {m : Machine} {o : OutputOptions} {map : Map} {s : State} {t : Transition} {g : Guard}

/-! ### Statements and branches -/

/-- Expressions are texts that are read. -/
theorem failsOnly_expressions (what : String) (texts : List String) (line : Nat) :
    FailsOnly OfDescription (Emission.expressions what texts line) :=
  .mapM fun _ _ => failsOnly_malformed _

/-- A variant is named by its state. -/
theorem Variant.failsOnly_ofState (line : Nat) :
    FailsOnly OfDescription (Variant.ofState map s line) :=
  (failsOnly_malformed _).bind fun _ _ => .ok _

/-- **A reference that means a state** has a variant. -/
theorem Variant.failsOnly_ofReference {line : Nat} {r : Reference}
    (h : (m.resolve? r map.name).isSome) :
    FailsOnly OfDescription (Variant.ofReference m map line r) := by
  obtain ⟨x, hx⟩ := Option.isSome_iff_exists.mp h
  unfold Variant.ofReference
  rw [hx]
  exact failsOnly_ofState line

/-- An assignment needs a value. -/
theorem Command.failsOnly_ofAction (a : Action) :
    FailsOnly OfDescription (Command.ofAction a) := by
  unfold Command.ofAction
  cases a.receiver with
  | context => exact .ok _
  | owner =>
      refine (failsOnly_malformed _).bind fun name _ =>
        (failsOnly_expressions _ _ _).bind fun arguments _ => ?_
      split
      · cases arguments with
        | nil => exact .error (.missingValue a.name a.line)
        | cons value rest => exact .ok _
      · exact .ok _

/-- So do the actions of a guard or a state. -/
theorem Command.failsOnly_ofActions (actions : List Action) :
    FailsOnly OfDescription (Command.ofActions actions) :=
  .mapM fun a _ => failsOnly_ofAction a

/-- A transition that is issued has a name and arguments. -/
theorem Issue.failsOnly_ofGuard (transition : String) :
    FailsOnly OfDescription (Issue.ofGuard g transition) :=
  (failsOnly_malformed _).bind fun _ _ => (failsOnly_expressions _ _ _).bind fun _ _ => .ok _

/-- The state that a guard pushes has a variant. -/
theorem Move.failsOnly_ofGuard {target : Option Variant}
    (h : ∀ r ∈ g.references, (m.resolve? r map.name).isSome) :
    FailsOnly OfDescription (Move.ofGuard m map g target) := by
  unfold Guard.references Guard.pushed? at h
  unfold Move.ofGuard
  cases htransfer : g.transfer with
  | set target => exact .ok _
  | push target pushed =>
      refine (Variant.failsOnly_ofReference (h pushed ?_)).bind fun _ _ => .ok _
      simp [htransfer]
  | pop transition arguments =>
      exact (FailsOnly.optionMapM fun _ _ => Issue.failsOnly_ofGuard _).bind fun _ _ => .ok _

/-- A condition is a text that is read. -/
theorem Branch.failsOnly_conditionOf : FailsOnly OfDescription (Branch.conditionOf g) := by
  unfold Branch.conditionOf
  split
  · exact .ok _
  · exact (failsOnly_malformed _).bind fun _ _ => .ok _

/-- **The references of a guard are resolved for its branch.** -/
theorem Branch.failsOnly_ofGuard (h : ∀ r ∈ g.references, (m.resolve? r map.name).isSome) :
    FailsOnly OfDescription (Branch.ofGuard m o map s t g) := by
  refine FailsOnly.bind (.optionMapM fun r hr => ?_) fun target _ => ?_
  · exact Variant.failsOnly_ofReference
      (h r (List.mem_append_left _ (Option.mem_toList.mpr hr)))
  · exact (Command.failsOnly_ofActions _).bind fun _ _ =>
      (Move.failsOnly_ofGuard h).bind fun _ _ => failsOnly_conditionOf.bind fun _ _ => .ok _

/-! ### Handlers -/

/-- The name of a handler is a text that is read. -/
theorem HandlerName.failsOnly_make (map stateClass transition : String) (line : Nat) :
    FailsOnly OfDescription (HandlerName.make map stateClass transition line) :=
  (failsOnly_malformed _).bind fun _ _ => .ok _

/-- So are parameters. -/
theorem Binding.failsOnly_ofTransition (t : Transition) :
    FailsOnly OfDescription (Binding.ofTransition t) :=
  .mapM fun _ _ => (failsOnly_malformed _).bind fun _ _ =>
    (failsOnly_malformed _).bind fun _ _ => .ok _

/-- A forward goes to a handler that can be named. -/
theorem Forward.failsOnly_ofState (arguments : List Rust.Ident) :
    FailsOnly OfDescription (Forward.ofState map s t arguments) := by
  unfold Forward.ofState
  split
  · exact .ok _
  · exact (HandlerName.failsOnly_make _ _ _ _).bind fun _ _ => .ok _

/-- A handler fails for its branches, if not for its name or its parameters. -/
theorem Handler.failsOnly_ofTransition
    (h : ∀ g ∈ t.guards, ∀ r ∈ g.references, (m.resolve? r map.name).isSome) :
    FailsOnly OfDescription (Handler.ofTransition m o map s t) := by
  refine (HandlerName.failsOnly_make _ _ _ _).bind fun name _ =>
    (Binding.failsOnly_ofTransition t).bind fun parameters _ =>
      FailsOnly.bind (.mapM fun g hg => Branch.failsOnly_ofGuard (h g hg)) fun branches _ => ?_
  split
  · exact .ok _
  · exact (Forward.failsOnly_ofState _).map _ |>.bind fun _ _ => .ok _

/-- A derived handler has no branches. -/
theorem Handler.failsOnly_forwarding (t : Transition) :
    FailsOnly OfDescription (Handler.forwarding map t) :=
  (HandlerName.failsOnly_make _ _ _ _).bind fun _ _ =>
    (Binding.failsOnly_ofTransition t).bind fun _ _ => .ok _

/-- The handlers of a map fail for what its guards fail for. -/
theorem Handler.failsOnly_ofMap
    (h : ∀ s ∈ map.allStates, ∀ g ∈ s.guards, ∀ r ∈ g.references,
      (m.resolve? r map.name).isSome) :
    FailsOnly OfDescription (Handler.ofMap m o map) := by
  have hstate : ∀ s ∈ map.allStates, FailsOnly OfDescription (Handler.ofState m o map s) :=
    fun s hs => .mapM fun t ht => failsOnly_ofTransition fun g hg =>
      h s hs g (List.mem_flatMap.mpr ⟨t, ht, hg⟩)
  refine FailsOnly.bind (.mapM fun s hs => hstate s (List.mem_append_left _ hs)) fun _ _ => ?_
  refine FailsOnly.bind (.mapM fun t _ => failsOnly_forwarding t) fun _ _ => ?_
  exact FailsOnly.bind (.mapM fun s hs => hstate s (List.mem_append_right _ hs)) fun _ _ => .ok _

/-! ### Methods and dispatchers -/

/-- Transitions without a method are at fault. -/
theorem failsOnly_publicTransitions (m : Machine) :
    FailsOnly OfDescription (publicTransitions m) := by
  unfold publicTransitions
  extract_lets named
  split
  · exact .error (.signature ..)
  · split
    · exact .error (.signature ..)
    · split
      · exact .error (.signature ..)
      · exact .ok _

/-- An arm calls a handler that can be named. -/
theorem Arm.failsOnly_ofState (arguments : List Rust.Ident) :
    FailsOnly OfDescription (Arm.ofState t arguments map s) := by
  refine (Variant.failsOnly_ofState _).bind fun _ _ => ?_
  split
  · exact (HandlerName.failsOnly_make _ _ _ _).bind fun _ _ => .ok _
  · exact .ok _

/-- The methods fail for their signatures, if not for their names or arms. -/
theorem Method.failsOnly_ofMachine (m : Machine) :
    FailsOnly OfDescription (Method.ofMachine m) :=
  (failsOnly_publicTransitions m).bind fun _ _ => .mapM fun t _ =>
    (failsOnly_malformed _).bind fun _ _ => (Binding.failsOnly_ofTransition t).bind fun _ _ =>
      FailsOnly.bind (.mapM fun _ _ => Arm.failsOnly_ofState _) fun _ _ => .ok _

/-- So does the dispatch of a state. -/
theorem Dispatch.failsOnly_ofState (map : Map) (s : State) :
    FailsOnly OfDescription (Dispatch.ofState map s) := by
  refine (Variant.failsOnly_ofState _).bind fun _ _ =>
    (Command.failsOnly_ofActions _).bind fun _ _ =>
      (Command.failsOnly_ofActions _).bind fun _ _ => ?_
  split
  · exact (HandlerName.failsOnly_make _ _ _ _).bind fun _ _ => .ok _
  · exact .ok _

/-- The modules of a package are texts that are read. -/
theorem failsOnly_packageModules (package : Option String) (line : Nat) :
    FailsOnly OfDescription (packageModules package line) := by
  cases package with
  | none => exact .ok _
  | some text => exact FailsOnly.bind (.mapM fun _ _ => failsOnly_malformed _) fun _ _ => .ok _

end Program

open Program in
/-- **Generation of a valid machine fails for what the description says**, and never for a
reference that means no state. -/
theorem Validated.failsOnly_program {v : Validated} (o : OutputOptions)
    (h : ∀ map ∈ v.machine.maps, ∀ s ∈ map.allStates, ∀ g ∈ s.guards, ∀ r ∈ g.references,
      (v.machine.resolve? r map.name).isSome) :
    FailsOnly GenerationError.OfDescription (v.program o) :=
  (failsOnly_malformed _).bind fun _ _ => (Variant.failsOnly_ofState _).bind fun _ _ =>
    (failsOnly_malformed _).bind fun _ _ =>
      FailsOnly.bind (.mapM fun _ _ => failsOnly_malformed _) fun _ _ =>
        FailsOnly.bind (.mapM fun _ _ => Variant.failsOnly_ofState _) fun _ _ =>
          (Method.failsOnly_ofMachine _).bind fun _ _ =>
            FailsOnly.bind (.mapM fun map hmap => Handler.failsOnly_ofMap (h map hmap)) fun _ _ =>
              FailsOnly.bind (.mapM fun _ _ => Dispatch.failsOnly_ofState _ _) fun _ _ =>
                (failsOnly_packageModules _ _).bind fun _ _ => .ok _

end StateMachine
