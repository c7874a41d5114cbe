import StateMachine.Program.Rendering
import StateMachine.Proofs.Program.Dispatch

/-!
# What the Options Add to a Program

Two options decide what a program is: the path of the runtime library, and whether a panic in an
action is caught. The others only add to it: trace statements at both ends of a guard's body,
the snapshot and restore methods, the wrapper for use from several threads; and they choose what
an unhandled transition comes to. Generation fails with or without them, for the same reason.

## Proof strategy

A program is stripped of what was added in two ways. As data, `Program.plain` drops the trace
statements and the flags, and this is the program that is made without these options
(`Validated.plain_program`). As it is written, `Program.skeleton` leaves out the optional
functions and the body of the unhandled transition. `Cuts` relates the two ways: pieces of the
program are cut out where they stand, and nothing else is moved or changed.

## Main results

* `Validated.plain_program`: the plain program is that of the core options.
* `Program.cuts_pieces`: what is written of a program is its skeleton, with additions.
* `options_orthogonal`: under options that agree on the core, generation **fails alike or gives
  programs of one skeleton**.
-/

namespace StateMachine

open Rust (Piece)

/-- What is left of the options when all that only add are off. -/
def OutputOptions.core (o : OutputOptions) : OutputOptions :=
  { noCatch := o.noCatch, runtimePath := o.runtimePath }

namespace Program

/-! ### Plain programs -/

/-- Whether a statement traces. -/
def Statement.isTrace : Statement → Bool
  | .traceEnter _ | .traceExit _ => true
  | _ => false

/-- The statements that do not trace. -/
def untraced (ss : List Statement) : List Statement :=
  ss.filter fun s => !s.isTrace

/-- A branch without traces. -/
def Branch.plain (b : Branch) : Branch :=
  { b with statements := untraced b.statements }

/-- What a handler does, without traces. -/
def HandlerBody.plain : HandlerBody → HandlerBody
  | .branches bs otherwise => .branches (bs.map Branch.plain) otherwise
  | .forward f => .forward f

/-- A handler without traces. -/
def Handler.plain (h : Handler) : Handler :=
  { h with body := h.body.plain }

end Program

/-- A program without anything that an option added. -/
def Program.plain (p : Program) : Program :=
  { p with
    handlers := p.handlers.map Program.Handler.plain
    isSerial := false
    isShared := false
    panics := false }

namespace Program

theorem untraced_append (ss ss' : List Statement) :
    untraced (ss ++ ss') = untraced ss ++ untraced ss' :=
  List.filter_append ..

/-- Leaving a state does not trace. -/
theorem untraced_leaving (inDefault : Bool) (move : Move) :
    untraced (leaving inDefault move) = leaving inDefault move := by
  cases move <;> cases inDefault <;> rfl

/-- Running actions does not trace. -/
theorem untraced_running (catching : Bool) (commands : List Command) :
    untraced (running catching commands) = running catching commands := by
  have hcommands : untraced (commands.map .command) = commands.map .command :=
    List.filter_eq_self.mpr fun s hs => by
      obtain ⟨c, -, rfl⟩ := List.mem_map.mp hs
      rfl
  unfold running
  split_ifs
  · rfl
  · rfl
  · exact congrArg (Statement.clear :: ·) hcommands

/-- Setting a state does not trace. -/
theorem untraced_settling (hasActions : Bool) (move : Move) :
    untraced (settling hasActions move) = settling hasActions move := by
  rcases move with _ | target | ⟨_ | target, pushed⟩ | issue <;> cases hasActions <;> rfl

/-- Entering a state does not trace. -/
theorem untraced_arriving (inDefault catching : Bool) (move : Move) :
    untraced (arriving inDefault catching move) = arriving inDefault catching move := by
  cases move <;> cases inDefault <;> cases catching <;> rfl

/-- Letting a panic go on does not trace. -/
theorem untraced_resuming (move : Move) : untraced (resuming move) = resuming move := by
  cases move <;> rfl

/-- Issuing a transition does not trace. -/
theorem untraced_issuing (move : Move) : untraced (issuing move) = issuing move := by
  rcases move with _ | target | ⟨target, pushed⟩ | _ | issue <;> rfl

/-- **Only the two ends of a body trace**, and only if the options ask for it. -/
theorem untraced_body (o : OutputOptions) (inDefault : Bool) (t : Transition) (move : Move)
    (commands : List Command) :
    untraced (body o inDefault t move commands) = body o.core inDefault t move commands := by
  have henter : untraced (if o.debug then [.traceEnter (signatureText t)] else []) = [] := by
    split <;> rfl
  have hexit : untraced (if o.debug then [.traceExit t.name] else []) = [] := by
    split <;> rfl
  have hresuming : ∀ catching : Bool,
      untraced (if catching then resuming move else []) =
        if catching then resuming move else [] := by
    intro catching
    split
    · exact untraced_resuming move
    · rfl
  simp only [body, untraced_append, henter, hexit, hresuming, untraced_leaving, untraced_running,
    untraced_settling, untraced_arriving, untraced_issuing]
  rfl

/-! ### The program of the core options -/

variable {m : Machine} {o : OutputOptions} {map : Map} {s : State} {t : Transition}

/-- Without traces, a branch is that of the core options. -/
theorem Branch.plain_ofGuard (g : Guard) :
    Branch.plain <$> Branch.ofGuard m o map s t g = Branch.ofGuard m o.core map s t g := by
  simp only [Branch.ofGuard, map_bind, map_pure, Branch.plain, untraced_body]

/-- So is a handler of a transition that is declared. -/
theorem Handler.plain_ofTransition :
    Handler.plain <$> Handler.ofTransition m o map s t = Handler.ofTransition m o.core map s t := by
  have hbranches : List.map Branch.plain <$> t.guards.mapM (Branch.ofGuard m o map s t) =
      t.guards.mapM (Branch.ofGuard m o.core map s t) :=
    map_mapM Branch.plain_ofGuard t.guards
  simp only [Handler.ofTransition, ← hbranches, map_bind, bind_map_left]
  split_ifs <;> simp only [map_bind, map_pure, Handler.plain, HandlerBody.plain]

/-- A derived handler has no traces. -/
theorem Handler.plain_forwarding :
    Handler.plain <$> Handler.forwarding map t = Handler.forwarding map t := by
  simp only [Handler.forwarding, map_bind, map_pure, Handler.plain, HandlerBody.plain]

/-- Without traces, the handlers of a state are those of the core options. -/
theorem Handler.plain_ofState :
    List.map Handler.plain <$> Handler.ofState m o map s = Handler.ofState m o.core map s :=
  map_mapM (fun _ => Handler.plain_ofTransition) s.transitions

/-- So are those of a map. -/
theorem Handler.plain_ofMap :
    List.map Handler.plain <$> Handler.ofMap m o map = Handler.ofMap m o.core map := by
  have hstates : ∀ states : List State,
      List.map (List.map Handler.plain) <$> states.mapM (Handler.ofState m o map) =
        states.mapM (Handler.ofState m o.core map) :=
    map_mapM fun _ => Handler.plain_ofState
  have hderived : List.map Handler.plain <$>
      map.undefinedDefaultTransitions.mapM (Handler.forwarding map) =
        map.undefinedDefaultTransitions.mapM (Handler.forwarding map) :=
    map_mapM (fun _ => Handler.plain_forwarding) _
  unfold Handler.ofMap
  conv_rhs => rw [← hstates, ← hstates, ← hderived]
  simp only [map_bind, map_pure, bind_map_left, List.map_append, List.map_flatten]

end Program

open Program in
/-- **A program is that of the core options, but for what other options added.** If it cannot be
made, neither can the other, for the same reason. -/
theorem Validated.plain_program (v : Validated) (o : OutputOptions) :
    Program.plain <$> v.program o = v.program o.core := by
  have hhandlers :
      List.map (List.map Handler.plain) <$> v.machine.maps.mapM (Handler.ofMap v.machine o) =
        v.machine.maps.mapM (Handler.ofMap v.machine o.core) :=
    map_mapM (fun _ => Handler.plain_ofMap) v.machine.maps
  simp only [Validated.program, ← hhandlers, map_bind, map_pure, bind_map_left, Program.plain,
    List.map_flatten]
  rfl

namespace Program

/-! ### Cutting pieces out -/

/-- What is left of pieces when some runs of them are cut out, inside of groups as well. -/
inductive Cuts (optional : Pieces → Prop) : Pieces → Pieces → Prop
  | nil : Cuts optional [] []
  | keep {ps qs : Pieces} (piece : Piece) (h : Cuts optional ps qs) :
      Cuts optional (piece :: ps) (piece :: qs)
  | inside {inner inner' ps qs : Pieces} (d : Rust.Delimiter) (hinner : Cuts optional inner inner')
      (h : Cuts optional ps qs) : Cuts optional (.group d inner :: ps) (.group d inner' :: qs)
  | cut {run ps qs : Pieces} (hrun : optional run) (h : Cuts optional ps qs) :
      Cuts optional (run ++ ps) qs

namespace Cuts

variable {optional : Pieces → Prop} {ps qs ps' qs' : Pieces}

/-- Nothing needs to be cut out. -/
theorem refl (ps : Pieces) : Cuts optional ps ps := by
  induction ps with
  | nil => exact .nil
  | cons piece ps ih => exact .keep piece ih

/-- Pieces are cut out in front and behind. -/
theorem append (h : Cuts optional ps qs) (h' : Cuts optional ps' qs') :
    Cuts optional (ps ++ ps') (qs ++ qs') := by
  induction h with
  | nil => exact h'
  | keep piece _ ih => exact .keep piece ih
  | inside d hinner _ _ ih => exact .inside d hinner ih
  | cut hrun _ ih =>
      rw [List.append_assoc]
      exact .cut hrun ih

/-- An optional run is cut out as a whole. -/
theorem of_optional (h : optional ps) : Cuts optional ps [] :=
  ps.append_nil ▸ .cut h .nil

/-- All that stands behind is cut out. -/
theorem append_nil (h : Cuts optional ps qs) (h' : Cuts optional ps' []) :
    Cuts optional (ps ++ ps') qs := by
  have happend := h.append h'
  rwa [List.append_nil] at happend

/-- Pieces are cut out in braces. -/
theorem braces (h : Cuts optional ps qs) : Cuts optional (braces ps) (Program.braces qs) :=
  .inside _ h .nil

/-- Pieces are cut out entry by entry. -/
theorem flatMap {α : Type} {l : List α} {f g : α → Pieces}
    (h : ∀ a ∈ l, Cuts optional (f a) (g a)) : Cuts optional (l.flatMap f) (l.flatMap g) := by
  induction l with
  | nil => exact .nil
  | cons a l ih =>
      obtain ⟨ha, hl⟩ := List.forall_mem_cons.mp h
      exact ha.append (ih hl)

/-- Whole entries are cut out. -/
theorem flatMap_filter {α : Type} {l : List α} {f : α → Pieces} {keeps : α → Bool}
    (h : ∀ a ∈ l, keeps a = false → optional (f a)) :
    Cuts optional (l.flatMap f) ((l.filter keeps).flatMap f) := by
  induction l with
  | nil => exact .nil
  | cons a l ih =>
      obtain ⟨ha, hl⟩ := List.forall_mem_cons.mp h
      cases hkeeps : keeps a with
      | false =>
          rw [List.filter_cons_of_neg (by simp [hkeeps])]
          exact .cut (ha hkeeps) (ih hl)
      | true =>
          rw [List.filter_cons_of_pos hkeeps]
          exact (refl (f a)).append (ih hl)

/-- Pieces are cut out of the blocks of a chain. -/
theorem elseChain {blocks blocks' : List Pieces}
    (h : List.Forall₂ (Cuts optional) blocks blocks') :
    Cuts optional (elseChain blocks) (Program.elseChain blocks') := by
  induction h with
  | nil => exact .nil
  | cons hblock hrest ih =>
      cases hrest with
      | nil => exact hblock
      | cons _ _ => exact (hblock.append (refl _)).append ih

/-- Pieces are cut out of the body of a function. -/
theorem body {f : Function} (h : Cuts optional f.body ps) :
    Cuts optional f.pieces { f with body := ps }.pieces :=
  (refl _).append h.braces

end Cuts

/-! ### Skeletons -/

/-- What the options add to a program, and the body that they choose. -/
inductive IsOptional (p : Program) : Pieces → Prop
  | traceEnter (signature : String) : p.IsOptional (p.statementPieces (.traceEnter signature))
  | traceExit (transition : String) : p.IsOptional (p.statementPieces (.traceExit transition))
  /-- The snapshot and restore methods. -/
  | serial : p.IsOptional (functionPieces p.serialFunctions)
  /-- The wrapper for use from several threads. -/
  | shared : p.IsOptional p.sharedPieces
  /-- What an unhandled transition comes to. -/
  | unhandled : p.IsOptional p.unhandledBody

/-- The end of all forwards, where nothing is said of what an unhandled transition comes to. -/
def bareUnhandled (p : Program) : Function :=
  { p.unhandledFunction with body := [] }

/-- The functions that a context has under all options. -/
def steadyFunctions (p : Program) : List Function :=
  p.basicFunctions ++ p.methods.map p.methodFunction ++ p.handlers.map p.handlerFunction ++
    [p.actionDispatcher "on_entry" Dispatch.entry, p.actionDispatcher "on_exit" Dispatch.exit,
     p.defaultDispatcher, p.bareUnhandled]

/-- What is written of a program under all options. The block of the context's methods is the last
piece of `contextMethods`, and stands here for the functions that are steady. -/
def skeleton (p : Program) : Pieces :=
  p.modules.foldr insideModule
    (p.importPieces ++ p.enumPieces ++ p.enumMethods ++ p.enumInstance ++ p.contextPieces ++
      (p.contextMethods.dropLast ++ braces (functionPieces p.steadyFunctions)) ++
      p.contextDefault)

variable (p : Program)

/-- The traces of a body are optional. -/
theorem cuts_untraced (ss : List Statement) :
    Cuts p.IsOptional (ss.flatMap p.statementPieces)
      ((untraced ss).flatMap p.statementPieces) := by
  refine .flatMap_filter fun s _ hs => ?_
  cases s with
  | traceEnter signature => exact .traceEnter signature
  | traceExit transition => exact .traceExit transition
  | _ => cases hs

/-- So are those of a branch. -/
theorem cuts_branch (b : Branch) :
    Cuts p.IsOptional (p.branchPieces b) (p.branchPieces b.plain) := by
  have hblock := (p.cuts_untraced b.statements).braces
  obtain ⟨condition, statements⟩ := b
  cases condition with
  | none => exact hblock
  | some condition => exact (Cuts.refl _).append hblock

/-- So are those of a handler. -/
theorem cuts_handlerBody (body : HandlerBody) :
    Cuts p.IsOptional (p.handlerBodyPieces body) (p.handlerBodyPieces body.plain) := by
  cases body with
  | forward f => exact .refl _
  | branches bs otherwise =>
      cases bs with
      | nil => exact .refl _
      | cons b bs =>
          refine ((Cuts.elseChain (List.rel_append ?_ ?_)).append (.refl _)).append (.refl _)
          · rw [List.map_map, List.forall₂_map_left_iff, List.forall₂_map_right_iff,
              List.forall₂_same]
            exact fun b _ => p.cuts_branch b
          · exact List.forall₂_same.mpr fun _ _ => .refl _

/-- A function is written as its plain form is, if its body is. -/
theorem cuts_handlerFunction (h : Handler) :
    Cuts p.IsOptional (p.handlerFunction h).pieces (p.plain.handlerFunction h.plain).pieces :=
  Cuts.body (f := p.handlerFunction h) (p.cuts_handlerBody h.body)

/-- **The functions of a context are its steady functions**, with optional ones between them, with
traces in the handlers, and with an end of all forwards that has a body. -/
theorem cuts_contextFunctions :
    Cuts p.IsOptional (functionPieces p.contextFunctions)
      (functionPieces p.plain.steadyFunctions) := by
  have hserial : Cuts p.IsOptional
      (functionPieces (if p.isSerial then p.serialFunctions else [])) [] := by
    split
    · exact .of_optional .serial
    · exact .nil
  have hhandlers : Cuts p.IsOptional (functionPieces (p.handlers.map p.handlerFunction))
      (functionPieces (p.plain.handlers.map p.plain.handlerFunction)) := by
    simp only [functionPieces, List.flatMap_map, plain]
    exact .flatMap fun h _ => p.cuts_handlerFunction h
  have hdispatch : Cuts p.IsOptional (functionPieces p.dispatchFunctions)
      (functionPieces [p.actionDispatcher "on_entry" Dispatch.entry,
        p.actionDispatcher "on_exit" Dispatch.exit, p.defaultDispatcher, p.bareUnhandled]) :=
    (Cuts.refl _).append ((Cuts.refl _).append ((Cuts.refl _).append
      ((Cuts.body (.of_optional .unhandled)).append .nil)))
  simp only [contextFunctions, steadyFunctions, functionPieces, List.flatMap_append]
    at hserial hhandlers hdispatch ⊢
  have hbegin := (Cuts.refl (functionPieces p.basicFunctions)).append_nil hserial
  exact ((hbegin.append (.refl _)).append hhandlers).append hdispatch

/-- Pieces are cut out of what is inside of modules. -/
theorem Cuts.modules {optional : Pieces → Prop} {ps qs : Pieces} (h : Cuts optional ps qs)
    (modules : List Rust.Ident) :
    Cuts optional (modules.foldr insideModule ps) (modules.foldr insideModule qs) := by
  induction modules with
  | nil => exact h
  | cons module _ ih => exact (refl _).append ((refl _).append ih).braces

/-- The methods of a context are a block behind fixed words. -/
theorem contextMethods_eq :
    p.contextMethods = p.contextMethods.dropLast ++ braces (functionPieces p.contextFunctions) := by
  rw [contextMethods, braces, List.dropLast_concat]

/-- **What is written of a program is its skeleton**, with what the options add. -/
theorem cuts_pieces : Cuts p.IsOptional p.pieces p.plain.skeleton := by
  have hmethods : Cuts p.IsOptional p.contextMethods
      (p.plain.contextMethods.dropLast ++ braces (functionPieces p.plain.steadyFunctions)) := by
    rw [contextMethods_eq]
    exact (Cuts.refl _).append p.cuts_contextFunctions.braces
  have hshared : Cuts p.IsOptional (if p.isShared then p.sharedPieces else []) [] := by
    split
    · exact .of_optional .shared
    · exact .nil
  refine Cuts.modules (Cuts.append_nil ?_ hshared) p.modules
  exact ((Cuts.refl _).append hmethods).append (.refl p.contextDefault)

end Program

/-- **The options are orthogonal to the machine.** Take two options that agree on the path of the
runtime library and on whether panics are caught, and differ in the rest as they may. Then
generation fails under both for the same reason, or gives a program under both. The two programs
have the same states, methods, arms, dispatchers and handlers, in the same order, and the handlers
the same statements, but for those that trace. What is written of each of them is one and the same
skeleton, once the trace statements, the snapshot and restore methods, the shared context and the
body for an unhandled transition are cut out. -/
theorem options_orthogonal (v : Validated) {o o' : OutputOptions}
    (hruntime : o.runtimePath = o'.runtimePath) (hcatch : o.noCatch = o'.noCatch) :
    (∃ e, v.program o = .error e ∧ v.program o' = .error e) ∨
      ∃ p p', v.program o = .ok p ∧ v.program o' = .ok p' ∧ p.plain = p'.plain ∧
        Program.Cuts p.IsOptional p.pieces p.plain.skeleton ∧
        Program.Cuts p'.IsOptional p'.pieces p.plain.skeleton := by
  have hcore : o.core = o'.core := by
    simp only [OutputOptions.core, hruntime, hcatch]
  have hplain := v.plain_program o
  have hplain' := v.plain_program o'
  rw [hcore, ← hplain'] at hplain
  cases hp : v.program o with
  | error e =>
      rw [hp] at hplain
      exact .inl ⟨e, rfl, map_eq_error_iff.mp hplain.symm⟩
  | ok p =>
      rw [hp] at hplain
      obtain ⟨p', hp', hsame⟩ := map_eq_ok_iff.mp hplain.symm
      refine .inr ⟨p, p', rfl, hp', hsame.symm, p.cuts_pieces, ?_⟩
      exact hsame ▸ p'.cuts_pieces

/-- The gate can be generated with everything added or with nothing, and both programs have one
skeleton. -/
theorem gate_options :
    ∃ v p p', gate.validate = .ok v ∧ v.program {} = .ok p ∧
      v.program { debug := true, sync := true, serial := true, noExceptions := true,
                  detail := .full } = .ok p' ∧
      p.plain = p'.plain ∧ Program.Cuts p.IsOptional p.pieces p.plain.skeleton ∧
      Program.Cuts p'.IsOptional p'.pieces p.plain.skeleton := by
  obtain ⟨v, p, hv, hp⟩ := gate_program
  have horthogonal := @options_orthogonal v {}
    { debug := true, sync := true, serial := true, noExceptions := true, detail := .full } rfl rfl
  rcases horthogonal with ⟨e, he, -⟩ | ⟨q, p', hq, hp', hsame, hcuts, hcuts'⟩
  · cases hp.symm.trans he
  · exact ⟨v, q, p', hv, hq, hp', hsame, hcuts, hcuts'⟩

end StateMachine
