import StateMachine.Generation
import StateMachine.Proofs.Machine.Lines
import StateMachine.Proofs.Program.Dispatch

/-!
# Lines Never Reach the Output

The line of a declaration is handed to every check and to every text that is read, for the error
that may come of it. This module shows that nothing else comes of it: two machines that differ
in nothing but lines have the same listings and the same programs, or fail for the same reason.

## Proof strategy

A machine is compared with itself without lines. A listing writes no line, so it is the same
(`Listing.items_eraseLines`). A step of the generation may fail, and then its error holds a line;
so steps are not equal but `Alike`, which sequences and traversals pass on. Two machines that
differ in lines are the same without lines, and what is like a third is alike.

## Main results

* `Listing.render_eraseLines`: a listing is the same without lines.
* `Validated.alike_program`: so is a program, or generation fails for the same reason.
* `lines_never_reach_the_output`: **any two machines that differ only in lines** have the same
  outputs, or the same errors but for the line.
-/

namespace StateMachine

/-! ### Listings -/

namespace Listing

variable (level : Detail)

/-- Actions are listed without lines. -/
@[simp] theorem actionItems_eraseLines (actions : List Action) :
    actionItems (actions.map Action.eraseLines) = actionItems actions :=
  List.map_map

/-- A transition has the same signature. -/
@[simp] theorem signatureText_eraseLines (t : Transition) :
    signatureText level t.eraseLines = signatureText level t := by
  have hempty : t.eraseLines.parameters.isEmpty = t.parameters.isEmpty := List.isEmpty_map
  rw [signatureText, hempty, Transition.parametersText_eraseLines]
  rfl

/-- A guard is listed without lines. -/
@[simp] theorem guardItem_eraseLines (t : Transition) (g : Guard) :
    guardItem level t.eraseLines g.eraseLines = guardItem level t g := by
  rw [guardItem, signatureText_eraseLines, Guard.eraseLines, actionItems_eraseLines]
  rfl

/-- So is a transition. -/
@[simp] theorem transitionItems_eraseLines (t : Transition) :
    transitionItems level t.eraseLines = transitionItems level t := by
  have hguards : t.eraseLines.guards = t.guards.map Guard.eraseLines := rfl
  simp only [transitionItems, hguards, List.isEmpty_map, signatureText_eraseLines, List.map_map,
    Function.comp_def, guardItem_eraseLines]

/-- So are entry and exit actions. -/
@[simp] theorem boundaryItems_eraseLines (opening : String) (actions : List Action) :
    boundaryItems opening (actions.map Action.eraseLines) = boundaryItems opening actions := by
  rw [boundaryItems, List.isEmpty_map, actionItems_eraseLines, boundaryItems]

/-- So is a state. -/
@[simp] theorem stateItems_eraseLines (s : State) :
    stateItems level s.eraseLines = stateItems level s := by
  simp only [stateItems, State.eraseLines, boundaryItems_eraseLines, List.flatMap_map,
    transitionItems_eraseLines]

/-- So is a map, with the transitions that are derived. -/
@[simp] theorem mapItems_eraseLines (m : Map) : mapItems level m.eraseLines = mapItems level m := by
  have hderived : ∀ t : Transition, derivedItem t.eraseLines = derivedItem t := fun _ => rfl
  simp only [mapItems, Map.allStates_eraseLines, List.flatMap_map, stateItems_eraseLines,
    Map.undefinedDefaultTransitions_eraseLines, List.map_map, Function.comp_def, hderived]
  rfl

/-- **A listing is the same without lines.** -/
theorem items_eraseLines (m : Machine) (start : String) (unreachable : List String) :
    items level m.eraseLines start unreachable = items level m start unreachable := by
  have hmaps : m.eraseLines.maps = m.maps.map Map.eraseLines := rfl
  simp only [items, hmaps, List.flatMap_map, mapItems_eraseLines]
  rfl

/-- So is its text. -/
theorem render_eraseLines (v : Validated) : render level v.eraseLines = render level v := by
  rw [render, Validated.eraseLines, items_eraseLines]
  rfl

end Listing

/-! ### Errors -/

/-- The error without its line. -/
def Rust.Malformed.eraseLine (e : Rust.Malformed) : Rust.Malformed :=
  { e with line := 0 }

/-- The error without its line. -/
def GenerationError.eraseLine : GenerationError → GenerationError
  | invalid defect => invalid defect.eraseLine
  | signature transition problem _ => signature transition problem 0
  | malformed text => malformed text.eraseLine
  | missingValue property _ => missingValue property 0
  | unresolved target => unresolved target
  | unparsable => unparsable

/-- The failure without the line of its error. -/
def GenerationFailure.eraseLine : GenerationFailure → GenerationFailure
  | reported e => reported e.eraseLine
  | printerPanic => printerPanic

open GenerationError (eraseLine)

/-- What is read alike is alike in an error, too. -/
theorem alike_malformed {α : Type} {x y : Except Rust.Malformed α}
    (h : Alike Rust.Malformed.eraseLine x y) :
    Alike eraseLine (x.mapError .malformed) (y.mapError .malformed) :=
  h.mapError fun _ _ he => congrArg GenerationError.malformed he

namespace Rust

/-- Whatever reads it, a text is read alike on all lines. -/
theorem alike_readBy {α : Type} (parse? : String → Option α) (what text : String)
    (line line' : Nat) :
    Alike Malformed.eraseLine (readBy parse? what text line) (readBy parse? what text line') := by
  unfold readBy
  cases parse? text with
  | none => exact .error rfl
  | some x => exact .ok x

/-- So is an identifier. -/
theorem Ident.alike_read (what text : String) (line line' : Nat) :
    Alike Malformed.eraseLine (read what text line) (read what text line') :=
  alike_readBy ..

end Rust

namespace Program

/-! ### Statements and branches -/

section

variable (m : Machine) (o : OutputOptions) (map : Map) (s : State) (t : Transition) (g : Guard)
  (line line' : Nat)

/-- Names are read alike on all lines. -/
theorem alike_name (what text : String) :
    Alike eraseLine (Emission.name what text line) (Emission.name what text line') :=
  alike_malformed (Rust.alike_readBy ..)

/-- So are expressions. -/
theorem alike_expressions (what : String) (texts : List String) :
    Alike eraseLine (Emission.expressions what texts line)
      (Emission.expressions what texts line') :=
  .mapM (fun _ => alike_malformed (Rust.alike_readBy ..)) texts

/-- A state is the same variant. -/
theorem Variant.alike_ofState :
    Alike eraseLine (Variant.ofState map s line)
      (Variant.ofState map.eraseLines s.eraseLines line') :=
  (alike_malformed (Rust.Ident.alike_read ..)).bind fun _ => .refl _ _

/-- A reference means the same variant. -/
theorem Variant.alike_ofReference (r : Reference) :
    Alike eraseLine (Variant.ofReference m map line r)
      (Variant.ofReference m.eraseLines map.eraseLines line' r) := by
  have hresolve : m.eraseLines.resolve? r map.eraseLines.name =
      (m.resolve? r map.name).map Location.eraseLines := m.resolve?_eraseLines r map.name
  rw [ofReference, ofReference, hresolve]
  cases m.resolve? r map.name with
  | none => exact .error rfl
  | some x => exact alike_ofState x.1 x.2 line line'

/-- An action is the same command. -/
theorem Command.alike_ofAction (a : Action) :
    Alike eraseLine (ofAction a) (ofAction a.eraseLines) := by
  have hreceiver : a.eraseLines.receiver = a.receiver := rfl
  have hproperty : a.eraseLines.isProperty = a.isProperty := rfl
  rw [ofAction, ofAction, hreceiver, hproperty]
  cases a.receiver with
  | context => exact .ok _
  | owner =>
      refine (alike_name ..).bind fun name => (alike_expressions ..).bind fun arguments => ?_
      split_ifs
      · cases arguments with
        | nil => exact .error rfl
        | cons value rest => exact .ok _
      · exact .ok _

/-- Actions are the same commands. -/
theorem Command.alike_ofActions (actions : List Action) :
    Alike eraseLine (ofActions actions) (ofActions (actions.map Action.eraseLines)) :=
  .mapM_map alike_ofAction actions

/-- The same transition is issued after a pop. -/
theorem Issue.alike_ofGuard (transition : String) :
    Alike eraseLine (ofGuard g transition) (ofGuard g.eraseLines transition) :=
  (alike_name ..).bind fun _ => (alike_expressions ..).bind fun _ => .refl _ _

/-- A guard makes the same move. -/
theorem Move.alike_ofGuard (target : Option Variant) :
    Alike eraseLine (ofGuard m map g target)
      (ofGuard m.eraseLines map.eraseLines g.eraseLines target) := by
  have htransfer : g.eraseLines.transfer = g.transfer := rfl
  rw [ofGuard, ofGuard, htransfer]
  cases g.transfer with
  | set target => exact .ok _
  | push _ pushed => exact (Variant.alike_ofReference ..).bind fun _ => .refl _ _
  | pop transition arguments =>
      exact (Alike.optionMapM (Issue.alike_ofGuard g) transition).bind fun _ => .refl _ _

/-- A condition is the same. -/
theorem Branch.alike_conditionOf :
    Alike eraseLine (conditionOf g) (conditionOf g.eraseLines) := by
  have hunconditional : g.eraseLines.isUnconditional = g.isUnconditional := rfl
  rw [conditionOf, conditionOf, hunconditional]
  split_ifs
  · exact .ok _
  · exact (alike_malformed (Rust.alike_readBy ..)).bind fun _ => .refl _ _

/-- **A guard is the same branch.** Its traces show the parameters of the transition, without
lines. -/
theorem Branch.alike_ofGuard :
    Alike eraseLine (ofGuard m o map s t g)
      (ofGuard m.eraseLines o map.eraseLines s.eraseLines t.eraseLines g.eraseLines) := by
  have hsignature : Program.signatureText t.eraseLines = Program.signatureText t := by
    rw [Program.signatureText, Transition.parametersText_eraseLines, Program.signatureText]
    rfl
  have hbody : ∀ move commands, body o s.eraseLines.isDefault t.eraseLines move commands =
      body o s.isDefault t move commands := fun move commands => by
    rw [body, hsignature, body]
    rfl
  refine (Alike.optionMapM (Variant.alike_ofReference m map g.line 0) _).bind fun target =>
    (Command.alike_ofActions _).bind fun commands =>
      (Move.alike_ofGuard m map g target).bind fun move =>
        (Branch.alike_conditionOf g).bind fun condition => ?_
  rw [hbody]
  exact .ok _

/-! ### Handlers -/

/-- A handler has the same name. -/
theorem HandlerName.alike_make (map stateClass transition : String) :
    Alike eraseLine (make map stateClass transition line)
      (make map stateClass transition line') :=
  (alike_malformed (Rust.Ident.alike_read ..)).bind fun _ => .refl _ _

/-- A parameter is bound to the same type. -/
theorem Binding.alike_ofParameter (p : Parameter) :
    Alike eraseLine (ofParameter p) (ofParameter p.eraseLines) := by
  have htype : Alike Rust.Malformed.eraseLine (Rust.Fragment.type p.type p.line)
      (Rust.Fragment.type p.type p.eraseLines.line) := Rust.alike_readBy ..
  exact (alike_name ..).bind fun _ => (alike_malformed htype).bind fun _ => .refl _ _

/-- A transition binds the same parameters. -/
theorem Binding.alike_ofTransition :
    Alike eraseLine (ofTransition t) (ofTransition t.eraseLines) :=
  .mapM_map Binding.alike_ofParameter t.parameters

/-- A transition that is not taken is forwarded to the same handler. -/
theorem Forward.alike_ofState (arguments : List Rust.Ident) :
    Alike eraseLine (ofState map s t arguments)
      (ofState map.eraseLines s.eraseLines t.eraseLines arguments) := by
  have hdefault : s.eraseLines.isDefault = s.isDefault := rfl
  rw [ofState, ofState, hdefault]
  split_ifs
  · exact .ok _
  · exact (HandlerName.alike_make ..).bind fun _ => .refl _ _

/-- **A declared transition has the same handler.** -/
theorem Handler.alike_ofTransition :
    Alike eraseLine (ofTransition m o map s t)
      (ofTransition m.eraseLines o map.eraseLines s.eraseLines t.eraseLines) := by
  rw [ofTransition, ofTransition, Transition.hasUnconditionalGuard_eraseLines]
  refine (HandlerName.alike_make ..).bind fun name => (Binding.alike_ofTransition t).bind
    fun parameters => (Alike.mapM_map (Branch.alike_ofGuard m o map s t) t.guards).bind
      fun branches => ?_
  split_ifs
  · exact .refl _ _
  · exact ((Forward.alike_ofState map s t _).map some).bind fun _ => .refl _ _

/-- So has a derived one. -/
theorem Handler.alike_forwarding :
    Alike eraseLine (forwarding map t) (forwarding map.eraseLines t.eraseLines) :=
  (HandlerName.alike_make ..).bind fun _ => (Binding.alike_ofTransition t).bind fun _ =>
    .refl _ _

/-- A state has the same handlers. -/
theorem Handler.alike_ofState :
    Alike eraseLine (ofState m o map s)
      (ofState m.eraseLines o map.eraseLines s.eraseLines) :=
  .mapM_map (alike_ofTransition m o map s) s.transitions

/-- A map has the same handlers. -/
theorem Handler.alike_ofMap :
    Alike eraseLine (ofMap m o map) (ofMap m.eraseLines o map.eraseLines) := by
  rw [ofMap, ofMap, Map.undefinedDefaultTransitions_eraseLines, Map.eraseLines,
    Option.toList_map]
  exact (Alike.mapM_map (alike_ofState m o map) map.defaultState.toList).bind fun _ =>
    (Alike.mapM_map (alike_forwarding map) map.undefinedDefaultTransitions).bind fun _ =>
      (Alike.mapM_map (alike_ofState m o map) map.states).bind fun _ => .refl _ _

end

/-! ### Methods and dispatch -/

/-- The first `Default` transition with parameters is the same. -/
theorem defaultWithParameters?_eraseLines (s : State) :
    defaultWithParameters? s.eraseLines =
      (defaultWithParameters? s).map Transition.eraseLines := by
  rw [defaultWithParameters?, State.eraseLines, List.find?_map, defaultWithParameters?]
  refine congrArg (Option.map Transition.eraseLines <| s.transitions.find? ·) (funext fun t => ?_)
  have hempty : t.eraseLines.parameters.isEmpty = t.parameters.isEmpty := List.isEmpty_map
  rw [Function.comp_apply, hempty]
  rfl

/-- The same transitions have two signatures of one name. -/
theorem map_eraseLines_overloads (ts : List Transition) :
    (overloads ts).map Transition.eraseLines = overloads (ts.map Transition.eraseLines) := by
  induction ts with
  | nil => rfl
  | cons t rest ih =>
      cases rest with
      | nil => rfl
      | cons u rest =>
          rw [List.map_cons, List.map_cons, overloads, overloads, apply_ite (List.map _),
            List.map_cons, ih]
          rfl

/-- **The same transitions have a method**, or the same transition cannot have one. -/
theorem alike_publicTransitions (m : Machine) :
    Alike eraseLine (List.map Transition.eraseLines <$> publicTransitions m)
      (publicTransitions m.eraseLines) := by
  have hdefault : (m.eraseLines.maps.flatMap Map.allStates).findSome? defaultWithParameters? =
      ((m.maps.flatMap Map.allStates).findSome? defaultWithParameters?).map
        Transition.eraseLines := by
    rw [Machine.eraseLines, List.flatMap_map, List.map_findSome?]
    simp only [Map.allStates_eraseLines, ← List.map_flatMap, List.findSome?_map]
    exact congrArg (List.findSome? · _) (funext defaultWithParameters?_eraseLines)
  have hnamed : (m.transitions.map Transition.eraseLines).filter
      (fun t => t.name ≠ State.defaultTransition) =
        (m.transitions.filter fun t => t.name ≠ State.defaultTransition).map
          Transition.eraseLines := List.filter_map
  simp only [publicTransitions, hdefault, Machine.transitions_eraseLines, hnamed,
    ← map_eraseLines_overloads, List.find?_map]
  cases (m.maps.flatMap Map.allStates).findSome? defaultWithParameters? with
  | some t => exact .error rfl
  | none =>
      generalize m.transitions.filter _ = named
      cases overloads named with
      | cons t rest => exact .error rfl
      | nil =>
          have hreserved : (fun t => reservedNames.contains (Transition.name t)) ∘
              Transition.eraseLines = fun t => reservedNames.contains t.name := rfl
          simp only [List.map_nil, hreserved]
          cases named.find? fun t => reservedNames.contains t.name with
          | some t => exact .error rfl
          | none => exact .ok _

section

variable (m : Machine) (map : Map) (s : State) (t : Transition)

/-- A transition is handled in the same class. -/
@[simp] theorem handlingClass?_eraseLines (name : String) :
    handlingClass? map.eraseLines s.eraseLines name = handlingClass? map s name := by
  rw [handlingClass?, State.defines_eraseLines, Map.hasDefaultHandler_eraseLines, handlingClass?]
  rfl

/-- A state has the same arm. -/
theorem Arm.alike_ofState (arguments : List Rust.Ident) :
    Alike eraseLine (ofState t arguments map s)
      (ofState t.eraseLines arguments map.eraseLines s.eraseLines) := by
  have hclass : handlingClass? map.eraseLines s.eraseLines t.eraseLines.name =
      handlingClass? map s t.name := handlingClass?_eraseLines map s t.name
  rw [ofState, ofState, hclass]
  refine (Variant.alike_ofState ..).bind fun _ => ?_
  cases handlingClass? map s t.name with
  | none => exact .ok _
  | some stateClass => exact (HandlerName.alike_make ..).bind fun _ => .refl _ _

/-- A transition has the same method. -/
theorem Method.alike_ofTransition :
    Alike eraseLine (ofTransition m t) (ofTransition m.eraseLines t.eraseLines) := by
  rw [ofTransition, ofTransition, Machine.states_eraseLines]
  refine (alike_name ..).bind fun _ => (Binding.alike_ofTransition t).bind fun _ => ?_
  refine (Alike.mapM_map ?_ m.states).bind fun _ => .refl _ _
  rintro ⟨map, s⟩
  exact Arm.alike_ofState map s t _

/-- **The methods are the same.** -/
theorem Method.alike_ofMachine : Alike eraseLine (ofMachine m) (ofMachine m.eraseLines) :=
  (alike_publicTransitions m).bind_map (.mapM_map (alike_ofTransition m))

/-- A state has the same dispatch. -/
theorem Dispatch.alike_ofState :
    Alike eraseLine (ofState map s) (ofState map.eraseLines s.eraseLines) := by
  rw [ofState, ofState, handlingClass?_eraseLines]
  refine (Variant.alike_ofState ..).bind fun _ => (Command.alike_ofActions _).bind fun _ =>
    (Command.alike_ofActions _).bind fun _ => ?_
  cases handlingClass? map s State.defaultTransition with
  | none => exact .ok _
  | some stateClass => exact (HandlerName.alike_make ..).bind fun _ => .refl _ _

/-- A package has the same modules. -/
theorem alike_packageModules (package : Option String) (line line' : Nat) :
    Alike eraseLine (packageModules package line) (packageModules package line') := by
  cases package with
  | none => exact .ok []
  | some text =>
      have hparts := Alike.mapM (alike_name line line' "package") (packageParts text).reverse
      exact hparts.bind fun _ => .refl _ _

end

end Program

/-! ### The outputs of a machine -/

section

variable (v : Validated) (o : OutputOptions)

open Program in
/-- **The program of a validated machine** is the same without lines, or generation fails for the
same reason. -/
theorem Validated.alike_program : Alike eraseLine (v.program o) (v.eraseLines.program o) := by
  have hruntime : Alike Rust.Malformed.eraseLine
      (Rust.Fragment.path "runtime path" o.runtimePath v.machine.startLine)
      (Rust.Fragment.path "runtime path" o.runtimePath v.machine.eraseLines.startLine) :=
    Rust.alike_readBy ..
  have himport : ∀ text, Alike Rust.Malformed.eraseLine
      (Rust.Fragment.importPath text v.machine.startLine)
      (Rust.Fragment.importPath text v.machine.eraseLines.startLine) := fun _ =>
    Rust.alike_readBy ..
  have himports := Alike.mapM (fun text => alike_malformed (himport text)) v.machine.imports
  rw [program, program, Validated.eraseLines, Machine.states_eraseLines]
  refine (alike_name ..).bind fun _ => ?_
  refine (Variant.alike_ofState ..).bind fun _ => ?_
  refine (alike_malformed hruntime).bind fun _ => himports.bind fun _ => ?_
  refine (Alike.mapM_map ?_ v.machine.states).bind fun _ => ?_
  · rintro ⟨map, s⟩
    exact Variant.alike_ofState map s _ _
  refine (Method.alike_ofMachine v.machine).bind fun _ => ?_
  refine (Alike.mapM_map (Handler.alike_ofMap v.machine o) v.machine.maps).bind fun _ => ?_
  refine (Alike.mapM_map ?_ v.machine.states).bind fun _ => ?_
  · rintro ⟨map, s⟩
    exact Dispatch.alike_ofState map s
  exact (alike_packageModules ..).bind fun _ => .refl _ _

/-- So is the output, whether it is a listing or a program. -/
theorem Validated.alike_generate (kind : OutputKind) :
    Alike GenerationFailure.eraseLine (v.generate kind o) (v.eraseLines.generate kind o) := by
  have hprogram : Alike GenerationFailure.eraseLine ((v.program o).mapError .reported)
      ((v.eraseLines.program o).mapError .reported) :=
    (v.alike_program o).mapError fun _ _ he => congrArg GenerationFailure.reported he
  cases kind with
  | listing =>
      rw [generate, generate, Listing.render_eraseLines]
      exact .ok _
  | rust =>
      rw [generate, generate]
      refine hprogram.bind fun p => ?_
      split_ifs
      · exact .error rfl
      · cases p.lines? with
        | some lines => exact .ok _
        | none => exact .error rfl

end

/-- **The output of a machine** is the same without lines, or generation fails for the same
reason. -/
theorem Machine.alike_generate (m : Machine) (kind : OutputKind) (o : OutputOptions) :
    Alike GenerationFailure.eraseLine (m.generate kind o) (m.eraseLines.generate kind o) := by
  rw [generate, generate, validate_eraseLines]
  cases m.validate with
  | error d =>
      refine .error (congrArg (GenerationFailure.reported ∘ GenerationError.invalid) ?_)
      cases d <;> rfl
  | ok v => exact v.alike_generate o kind

/-! ### Machines that differ in lines -/

/-- What validation found out is the same but for lines: so is all that is made of it. -/
theorem Validated.same_of_eraseLines {v v' : Validated} (h : v.eraseLines = v'.eraseLines) :
    v.startMap.name = v'.startMap.name ∧ v.startState.className = v'.startState.className ∧
      v.unreachable = v'.unreachable ∧
      (∀ level, Listing.render level v = Listing.render level v') ∧
      ∀ o, Alike eraseLine (v.program o) (v'.program o) := by
  refine ⟨congrArg (fun v => v.startMap.name) h, congrArg (fun v => v.startState.className) h,
    congrArg (fun v => v.unreachable) h, fun level => ?_, fun o => ?_⟩
  · calc Listing.render level v
        _ = Listing.render level v.eraseLines := (Listing.render_eraseLines level v).symm
        _ = Listing.render level v' := by rw [h, Listing.render_eraseLines]
  · have hright := (v'.alike_program o).symm
    rw [← h] at hright
    exact (v.alike_program o).trans hright

/-- **Lines never reach the output.** Take two machines that differ in nothing but lines. If one
fails validation, so does the other, for the same defect but for its line. If one is valid, so is
the other, with the same start state and the same unreachable states; the listings are the same at
every level of detail, and so is the program, token by token, under all options, or there is none
of either machine for the same reason but for its line. What is written out in the end is the
same too, whatever is generated. -/
theorem lines_never_reach_the_output {m m' : Machine} (h : m.eraseLines = m'.eraseLines) :
    (∀ d, m.validate = .error d →
      ∃ d', m'.validate = .error d' ∧ d.eraseLine = d'.eraseLine) ∧
    (∀ v, m.validate = .ok v →
      ∃ v', m'.validate = .ok v' ∧
        v.startMap.name = v'.startMap.name ∧ v.startState.className = v'.startState.className ∧
        v.unreachable = v'.unreachable ∧
        (∀ level, Listing.render level v = Listing.render level v') ∧
        ∀ o, Alike eraseLine (v.program o) (v'.program o)) ∧
    ∀ kind o, Alike GenerationFailure.eraseLine (m.generate kind o) (m'.generate kind o) := by
  have hvalidate : (m.validate.map Validated.eraseLines).mapError Defect.eraseLine =
      (m'.validate.map Validated.eraseLines).mapError Defect.eraseLine := by
    rw [← m.validate_eraseLines, h, m'.validate_eraseLines]
  refine ⟨fun d hd => ?_, fun v hv => ?_, fun kind o => ?_⟩
  · rw [hd] at hvalidate
    cases hd' : m'.validate with
    | error d' =>
        rw [hd'] at hvalidate
        exact ⟨d', rfl, Except.error.inj hvalidate⟩
    | ok v' =>
        rw [hd'] at hvalidate
        cases hvalidate
  · rw [hv] at hvalidate
    cases hv' : m'.validate with
    | error d' =>
        rw [hv'] at hvalidate
        cases hvalidate
    | ok v' =>
        rw [hv'] at hvalidate
        exact ⟨v', rfl, Validated.same_of_eraseLines (Except.ok.inj hvalidate)⟩
  · have hright := (m'.alike_generate kind o).symm
    rw [← h] at hright
    exact (m.alike_generate kind o).trans hright

/-- The gate is declared on two lines, and its program does not show on which. -/
theorem gate_without_lines_same_program :
    gate.eraseLines = gate.eraseLines.eraseLines ∧ gate ≠ gate.eraseLines ∧
      ∃ v v' p, gate.validate = .ok v ∧ gate.eraseLines.validate = .ok v' ∧
        v.unreachable = v'.unreachable ∧ v.program {} = .ok p ∧ v'.program {} = .ok p := by
  have hsame : gate.eraseLines = gate.eraseLines.eraseLines := by decide +kernel
  obtain ⟨v, p, hv, hp⟩ := gate_program
  obtain ⟨-, hvalid, -⟩ := lines_never_reach_the_output hsame
  obtain ⟨v', hv', -, -, hunreachable, -, hprogram⟩ := hvalid v hv
  have hp' : v'.program {} = .ok p := by
    have halike := hprogram {}
    rw [hp] at halike
    exact halike.eq_ok
  exact ⟨hsame, by decide +kernel, v, v', p, hv, hv', hunreachable, hp, hp'⟩

end StateMachine
