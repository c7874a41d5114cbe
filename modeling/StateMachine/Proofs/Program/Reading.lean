import StateMachine.Program.Rendering
import StateMachine.Proofs.Construction
import StateMachine.Proofs.Program.Parts
import StateMachine.Proofs.Rust.Literal

/-!
# Reading a Program Back

What is proved about a program is proved about its tables: the methods with their arms, the
handlers with their branches, the dispatches with their commands. What is written is Rust
text. This module says which text is read as which table. It follows the constructs of Rust
that occur, a call, a block, a chain of `if` and `else`, a `match`, a function, and spells
every token out; nothing of it refers to the functions that write.

## Conventions

* `ReadsX text x` reads: the text as a whole is read as `x`.
* In a text a state is a variant of the enumeration, and a handler or a method is an
  identifier. That two states may share a variant, or two handlers an identifier, is no
  matter of reading: a text is read as every table whose identifiers it has.
* A fragment of the description is read as the fragment whose pieces stand there. A string
  literal is read as the text that it stands for.

## Main results

* `readsStatement_statementPieces`: each statement is written as it is read.
* `readsChain_elseChain`: the branches of a handler are written as a chain that is read as
  these branches, if a branch without a condition is the last and the only way to end the
  chain without a forward.
* `Validated.Makes.standsIn`: **the program of a machine stands in what is written of it**,
  with its methods, its handlers and its dispatchers.
-/

namespace StateMachine

namespace Program

open Rust (Piece Fragment stringValue?)

/-! ### Tokens -/

/-- Tokens one by one. -/
def spelled (ws : List String) : Pieces := ws.map Piece.token

/-- A call: what is called, and the arguments in parentheses. -/
def spelledCall (callee : List String) (arguments : Pieces) : Pieces :=
  spelled callee ++ [.group .paren arguments]

/-- A variant of the enumeration of states. -/
def spelledVariant (p : Program) (v : Variant) : Pieces :=
  spelled [p.owner.text ++ "State", ":", ":", v.ident.spelling]

/-- Texts one behind the other, each read by `R`. -/
inductive ReadsEach {α : Type} (R : Pieces → α → Prop) : Pieces → List α → Prop
  | nil : ReadsEach R [] []
  | cons {text rest : Pieces} {x : α} {xs : List α} :
      R text x → ReadsEach R rest xs → ReadsEach R (text ++ rest) (x :: xs)

/-- A text that has `inner` in it, inside of braces or not. -/
inductive Holds (inner : Pieces) : Pieces → Prop
  | here (before after : Pieces) : Holds inner (before ++ inner ++ after)
  | inside (before after : Pieces) {body : Pieces} :
      Holds inner body → Holds inner (before ++ .group .brace body :: after)

/-! ### Statements -/

/-- A text is read as a command. -/
inductive ReadsCommand : Pieces → Command → Prop
  | emptyStack :
      ReadsCommand (spelledCall ["self", ".", "fsm", ".", "empty_state_stack"] [] ++ spelled [";"])
        .emptyStack
  | call (method : Rust.Ident) (arguments : List Fragment) :
      ReadsCommand
        (spelledCall ["ctxt", ".", method.spelling]
          ([.token ","].intercalate (arguments.map Fragment.pieces)) ++ spelled [";"])
        (.call method arguments)
  | assign (property : Rust.Ident) (value : Fragment) :
      ReadsCommand
        (spelled ["ctxt", ".", property.spelling, "="] ++ value.pieces ++ spelled [";"])
        (.assign property value)

/-- A text is read as a state. -/
inductive ReadsTarget (p : Program) : Pieces → Target → Prop
  | current : ReadsTarget p (spelled ["state"]) .current
  | variant (v : Variant) : ReadsTarget p (p.spelledVariant v) (.variant v)

/-- The state is traced, behind a title and in front of a text. -/
inductive ReadsTrace (title text : String) : Pieces → Prop
  | intro {format literal : String} :
      stringValue? format = some (title ++ "\x7b\x7d.\x7b\x7d") → stringValue? literal = some text →
      ReadsTrace title text
        (spelledCall ["self", ".", "fsm", ".", "trace"]
          (spelledCall ["format_args", "!"]
            (spelled [format, ","] ++ spelledCall ["state", ".", "name"] [] ++
              spelled [",", literal])) ++ spelled [";"])

/-- A text is read as a statement. -/
inductive ReadsStatement (p : Program) : Pieces → Statement → Prop
  | traceEnter {text : Pieces} {signature : String} :
      ReadsTrace "ENTER TRANSITION: " signature text → ReadsStatement p text (.traceEnter signature)
  | traceExit {text : Pieces} {transition : String} :
      ReadsTrace "EXIT TRANSITION : " transition text →
      ReadsStatement p text (.traceExit transition)
  | leave :
      ReadsStatement p
        (spelledCall ["self", ".", "on_exit"] (spelled ["ctxt", ",", "state"]) ++ spelled [";"])
        .leave
  | leaveUnless {inner : Pieces} (v : Variant) :
      ReadsStatement p inner .leave →
      ReadsStatement p
        (spelled ["if", "state", "!", "="] ++ p.spelledVariant v ++ [.group .brace inner])
        (.leaveUnless v)
  | clear :
      ReadsStatement p (spelledCall ["self", ".", "fsm", ".", "clear_state"] [] ++ spelled [";"])
        .clear
  | command {text : Pieces} {c : Command} :
      ReadsCommand text c → ReadsStatement p text (.command c)
  | catching {body : Pieces} {cs : List Command} :
      ReadsEach ReadsCommand body cs →
      ReadsStatement p
        (spelledCall
          ["let", "outcome", "=", ":", ":", "std", ":", ":", "panic", ":", ":", "catch_unwind"]
          (spelledCall [":", ":", "std", ":", ":", "panic", ":", ":", "AssertUnwindSafe"]
            (spelled ["|", "|"] ++ [.group .brace body])) ++ spelled [";"])
        (.catching cs)
  | setState {text : Pieces} {target : Target} :
      ReadsTarget p text target →
      ReadsStatement p (spelledCall ["self", ".", "fsm", ".", "set_state"] text ++ spelled [";"])
        (.setState target)
  | enter (v : Variant) :
      ReadsStatement p
        (spelledCall ["self", ".", "on_entry"] (spelled ["ctxt", ","] ++ p.spelledVariant v) ++
          spelled [";"])
        (.enter v)
  | enterUnless {inner : Pieces} (v : Variant) :
      ReadsStatement p inner (.enter v) →
      ReadsStatement p
        (spelled ["if", "state", "!", "="] ++ p.spelledVariant v ++ [.group .brace inner])
        (.enterUnless v)
  | push (v : Variant) :
      ReadsStatement p
        (spelledCall ["self", ".", "fsm", ".", "push_state"] (p.spelledVariant v) ++ spelled [";"])
        (.push v)
  | pop :
      ReadsStatement p
        (spelledCall ["self", ".", "fsm", ".", "pop_state"] [] ++ spelled ["?", ";"]) .pop
  | popLater :
      ReadsStatement p
        (spelled ["let", "popped", "="] ++ spelledCall ["self", ".", "fsm", ".", "pop_state"] [] ++
          spelled [";"])
        .popLater
  | resume :
      ReadsStatement p
        (spelledCall ["if", "let", "Err"] (spelled ["panic"]) ++ spelled ["=", "outcome"] ++
          [.group .brace
            (spelledCall [":", ":", "std", ":", ":", "panic", ":", ":", "resume_unwind"]
              (spelled ["panic"]) ++ spelled [";"])])
        .resume
  | checkPop : ReadsStatement p (spelled ["popped", "?", ";"]) .checkPop
  | issue (i : Issue) :
      ReadsStatement p
        (spelledCall ["self", ".", i.method.spelling]
          (spelled ["ctxt"] ++ i.arguments.flatMap fun f => spelled [","] ++ f.pieces) ++
          spelled ["?", ";"])
        (.issue i)

/-! ### Handlers -/

/-- A text is read as a forward. -/
inductive ReadsForward : Pieces → Forward → Prop
  | handler (target : HandlerName) (arguments : List Rust.Ident) :
      ReadsForward
        (spelledCall ["self", ".", target.ident.spelling]
          (spelled ["ctxt", ",", "state"] ++
            arguments.flatMap fun i => spelled [",", i.spelling]))
        (.handler target arguments)
  | defaultTransition :
      ReadsForward
        (spelledCall ["self", ".", "default_transition"] (spelled ["ctxt", ",", "state"]))
        .defaultTransition
  | unhandled :
      ReadsForward (spelledCall ["self", ".", "unhandled_transition"] (spelled ["state"]))
        .unhandled

/-- A chain of blocks is read as branches and as the forward that is left if no branch is
taken. It ends in a block without a condition, which is the last branch or the forward. -/
inductive ReadsChain (p : Program) : Pieces → List Branch → Option Forward → Prop
  | block {text : Pieces} {statements : List Statement} :
      ReadsEach (ReadsStatement p) text statements →
      ReadsChain p [.group .brace text] [⟨none, statements⟩] none
  | otherwise {text : Pieces} {f : Forward} :
      ReadsForward text f →
      ReadsChain p [.group .brace (spelled ["return"] ++ text ++ spelled [";"])] [] (some f)
  | branch {text rest : Pieces} {condition : Fragment} {statements : List Statement}
      {bs : List Branch} {otherwise : Option Forward} :
      ReadsEach (ReadsStatement p) text statements → ReadsChain p rest bs otherwise →
      ReadsChain p
        (spelled ["if"] ++ condition.pieces ++ [.group .brace text] ++ spelled ["else"] ++ rest)
        (⟨some condition, statements⟩ :: bs) otherwise

/-- The end of a handler that has taken a branch. -/
def spelledOk : Pieces := spelledCall ["Ok"] [.group .paren []]

/-- A text is read as the body of a handler. -/
inductive ReadsBody (p : Program) : Pieces → HandlerBody → Prop
  | chain {text : Pieces} {bs : List Branch} {otherwise : Option Forward} :
      ReadsChain p text bs otherwise → ReadsBody p (text ++ spelledOk) (.branches bs otherwise)
  | noBranches {text : Pieces} {f : Forward} :
      ReadsForward text f →
      ReadsBody p (spelled ["return"] ++ text ++ spelled [";"] ++ spelledOk)
        (.branches [] (some f))
  | forward {text : Pieces} {f : Forward} : ReadsForward text f → ReadsBody p text (.forward f)

/-! ### Functions -/

/-- A function with its parts. -/
def spelledFunction (head : List String) (parameters result body : Pieces) : Pieces :=
  spelled head ++ [.group .paren parameters] ++ result ++ [.group .brace body]

/-- The context and the owner, the first parameters of every function that runs commands. -/
def spelledOwner (p : Program) : Pieces :=
  spelled ["&", "mut", "self", ",", "ctxt", ":", "&", "mut", p.owner.spelling]

/-- The state, a further parameter. -/
def spelledState (p : Program) : Pieces :=
  spelled [",", "state", ":", p.owner.text ++ "State"]

/-- The parameters of a transition, further parameters. -/
def spelledParameters (bs : List Binding) : Pieces :=
  bs.flatMap fun b => spelled [",", b.name.spelling, ":"] ++ b.type.pieces

/-- The result of a transition. -/
def spelledResult (p : Program) : Pieces :=
  spelledCall ["-", ">", "Result", "<"] [] ++ spelled [","] ++ p.runtime.pieces ++
    spelled [":", ":", "TransitionError", ">"]

/-- A text is read as a handler. -/
inductive ReadsHandler (p : Program) : Pieces → Handler → Prop
  | intro {h : Handler} {body : Pieces} :
      ReadsBody p body h.body →
      ReadsHandler p
        (spelledFunction ["fn", h.name.ident.spelling]
          (p.spelledOwner ++ p.spelledState ++ spelledParameters h.parameters) p.spelledResult body)
        h

/-- A text is read as the arm of a state that forwards. -/
inductive ReadsArm (p : Program) (v : Variant) (f : Forward) : Pieces → Prop
  | intro {text : Pieces} :
      ReadsForward text f →
      ReadsArm p v f (p.spelledVariant v ++ spelled ["=", ">"] ++ text ++ spelled [","])

/-- A text is read as the method of a transition: the name of the transition is set, the arm of
the current state is carried out, and the name is taken back. -/
inductive ReadsMethod (p : Program) : Pieces → Method → Prop
  | intro {m : Method} {arms : Pieces} {transition nothing : String} :
      stringValue? transition = some m.transition → stringValue? nothing = some "" →
      ReadsEach (fun text (a : Arm) => ReadsArm p a.variant a.forward text) arms m.arms →
      ReadsMethod p
        (spelledFunction ["pub", "fn", m.ident.spelling]
          (p.spelledOwner ++ spelledParameters m.parameters) p.spelledResult
          (spelledCall ["self", ".", "fsm", ".", "set_transition"] (spelled [transition]) ++
            spelled [";", "let", "result", "="] ++
            spelledCall ["self", ".", "fsm", ".", "state"] [] ++
            spelledCall [".", "and_then"]
              (spelled ["|", "state", "|", "match", "state"] ++ [.group .brace arms]) ++
            spelled [";"] ++
            spelledCall ["self", ".", "fsm", ".", "set_transition"] (spelled [nothing]) ++
            spelled [";", "result"]))
        m

/-! ### Dispatchers -/

/-- The arms of a dispatcher of entry or exit actions. A state without commands has no arm,
and for such a state nothing is done. -/
inductive ReadsActions (p : Program) (commands : Dispatch → List Command) :
    Pieces → List Dispatch → Prop
  | rest : ReadsActions p commands (spelled ["_", "=", ">"] ++ [.group .brace []]) []
  | none {text : Pieces} {d : Dispatch} {ds : List Dispatch} :
      commands d = [] → ReadsActions p commands text ds → ReadsActions p commands text (d :: ds)
  | arm {text body : Pieces} {d : Dispatch} {ds : List Dispatch} :
      ReadsEach ReadsCommand body (commands d) → ReadsActions p commands text ds →
      ReadsActions p commands
        (p.spelledVariant d.variant ++ spelled ["=", ">"] ++ [.group .brace body] ++ text) (d :: ds)

/-- A dispatcher of entry or exit actions. -/
inductive ReadsActionDispatcher (p : Program) (title : String)
    (commands : Dispatch → List Command) : Pieces → Prop
  | intro {arms : Pieces} :
      ReadsActions p commands arms p.dispatch →
      ReadsActionDispatcher p title commands
        (spelledFunction ["fn", title] (p.spelledOwner ++ p.spelledState) []
          (spelled ["match", "state"] ++ [.group .brace arms]))

/-- The dispatcher of `Default` transitions. -/
inductive ReadsDefaultDispatcher (p : Program) : Pieces → Prop
  | intro {arms : Pieces} :
      ReadsEach (fun text (d : Dispatch) => ReadsArm p d.variant d.fallback text) arms p.dispatch →
      ReadsDefaultDispatcher p
        (spelledFunction ["fn", "default_transition"] (p.spelledOwner ++ p.spelledState)
          p.spelledResult (spelled ["match", "state"] ++ [.group .brace arms]))

/-- The end of all forwards: a panic or an error, which names the transition and the state. -/
inductive ReadsUnhandledBody (p : Program) : Pieces → Prop
  | panics {message : String} :
      p.panics = true →
      stringValue? message = some "no transition `\x7b\x7d` defined in state `\x7b\x7d`" →
      ReadsUnhandledBody p
        (spelledCall ["panic", "!"]
          (spelled [message, ","] ++ spelledCall ["self", ".", "fsm", ".", "transition"] [] ++
            spelled [","] ++ spelledCall ["state", ".", "name"] []))
  | fails {runtime : Pieces} :
      p.panics = false → runtime = p.runtime.pathInExpression?.getD p.runtime.pieces →
      ReadsUnhandledBody p
        (spelledCall ["Err"]
          (runtime ++ spelled [":", ":", "TransitionError", ":", ":", "Undefined"] ++
            [.group .brace
              (spelled ["state", ":"] ++ spelledCall ["state", ".", "name"] [] ++
                spelled [",", "transition", ":"] ++
                spelledCall ["self", ".", "fsm", ".", "transition"] [] ++ spelled [","])]))

/-- The function that ends all forwards. -/
inductive ReadsUnhandled (p : Program) : Pieces → Prop
  | intro {body : Pieces} :
      ReadsUnhandledBody p body →
      ReadsUnhandled p
        (spelledFunction ["fn", "unhandled_transition"]
          (spelled ["&", "self"] ++ p.spelledState) p.spelledResult body)

/-! ### Programs -/

/-- The functions of the context, with its methods, handlers and dispatchers behind those that
every context has. -/
inductive ReadsContext (p : Program) : Pieces → Prop
  | intro (others : Pieces) {methods handlers entry exit fallback unhandled : Pieces} :
      ReadsEach (ReadsMethod p) methods p.methods →
      ReadsEach (ReadsHandler p) handlers p.handlers →
      ReadsActionDispatcher p "on_entry" Dispatch.entry entry →
      ReadsActionDispatcher p "on_exit" Dispatch.exit exit →
      ReadsDefaultDispatcher p fallback → ReadsUnhandled p unhandled →
      ReadsContext p
        (spelled ["impl", p.owner.text ++ "Context"] ++
          [.group .brace
            (others ++ methods ++ handlers ++ entry ++ exit ++ fallback ++ unhandled)])

/-- **A program stands in a text**: its methods, handlers and dispatchers are what is read
there of the context. -/
def StandsIn (p : Program) (text : Pieces) : Prop :=
  ∃ context, ReadsContext p context ∧ Holds context text

/-! ### Each part is written as it is read -/

/-- What is written one behind the other is read one behind the other. -/
theorem readsEach_flatMap {α : Type} {R : Pieces → α → Prop} {write : α → Pieces} {xs : List α}
    (h : ∀ x ∈ xs, R (write x) x) : ReadsEach R (xs.flatMap write) xs := by
  induction xs with
  | nil => exact .nil
  | cons x rest ih =>
      rw [List.flatMap_cons]
      exact .cons (h x List.mem_cons_self) (ih fun y hy => h y (List.mem_cons_of_mem x hy))

/-- Fragments are written with commas between them. -/
theorem commaFragments_eq_intercalate (fs : List Fragment) :
    commaFragments fs = [.token ","].intercalate (fs.map Fragment.pieces) := by
  cases fs with
  | nil => rfl
  | cons f rest =>
      rw [commaFragments]
      induction rest generalizing f with
      | nil => simp [furtherFragments]
      | cons g rest ih =>
          rw [List.map_cons, List.map_cons, List.intercalate_cons_cons, ← List.map_cons, ← ih g]
          simp only [furtherFragments, List.flatMap_cons, List.append_assoc]
          rfl

section

variable {p : Program}

/-- A command is written as it is read. -/
theorem readsCommand_pieces (c : Command) : ReadsCommand c.pieces c := by
  cases c with
  | emptyStack => exact .emptyStack
  | call method arguments =>
      rw [Command.pieces, commaFragments_eq_intercalate]
      exact .call method arguments
  | assign property value => exact .assign property value

/-- A state is written as it is read. -/
theorem readsTarget_targetPieces (target : Target) :
    ReadsTarget p (p.targetPieces target) target := by
  cases target with
  | current => exact .current
  | variant v => exact .variant v

/-- A trace is written as it is read. -/
theorem readsTrace_tracePieces (title text : String) :
    ReadsTrace title text (tracePieces (title ++ "\x7b\x7d.\x7b\x7d") text) :=
  .intro (Rust.stringValue?_stringLiteral _) (Rust.stringValue?_stringLiteral text)

/-- **Each statement is written as it is read.** -/
theorem readsStatement_statementPieces (s : Statement) :
    ReadsStatement p (p.statementPieces s) s := by
  cases s with
  | traceEnter signature => exact .traceEnter (readsTrace_tracePieces _ signature)
  | traceExit transition => exact .traceExit (readsTrace_tracePieces _ transition)
  | leave => exact .leave
  | leaveUnless v => exact .leaveUnless v .leave
  | clear => exact .clear
  | command c => exact .command (readsCommand_pieces c)
  | catching cs => exact .catching (readsEach_flatMap fun c _ => readsCommand_pieces c)
  | setState target => exact .setState (readsTarget_targetPieces target)
  | enter v => exact .enter v
  | enterUnless v => exact .enterUnless v (.enter v)
  | push v => exact .push v
  | pop => exact .pop
  | popLater => exact .popLater
  | resume => exact .resume
  | checkPop => exact .checkPop
  | issue i => exact .issue i

/-- A forward is written as it is read. -/
theorem readsForward_pieces (f : Forward) : ReadsForward f.pieces f := by
  cases f with
  | handler target arguments => exact .handler target arguments
  | defaultTransition => exact .defaultTransition
  | unhandled => exact .unhandled

/-- Statements are written as they are read. -/
theorem readsEach_statementPieces (statements : List Statement) :
    ReadsEach (ReadsStatement p) (statements.flatMap p.statementPieces) statements :=
  readsEach_flatMap fun s _ => readsStatement_statementPieces s

/-! ### Chains -/

/-- Branches as they stand in a chain: a branch without a condition is the last, and there is
a forward exactly if there is no such branch. -/
structure IsChain (bs : List Branch) (otherwise : Option Forward) : Prop where
  conditional : ∀ b ∈ bs.dropLast, b.condition ≠ none
  closed : otherwise = none ↔ ∃ b ∈ bs, b.condition = none

/-- Behind a branch with a condition, a chain goes on. -/
theorem IsChain.tail {b : Branch} {bs : List Branch} {otherwise : Option Forward}
    (h : IsChain (b :: bs) otherwise) (hb : b.condition ≠ none) : IsChain bs otherwise := by
  refine ⟨fun b' hb' => h.conditional b' ?_, h.closed.trans ?_⟩
  · cases bs with
    | nil => cases hb'
    | cons b₁ rest => exact List.mem_cons_of_mem b hb'
  · simp [hb]

/-- Without branches there is a forward. -/
theorem IsChain.exists_forward {otherwise : Option Forward} (h : IsChain [] otherwise) :
    ∃ f, otherwise = some f := by
  refine Option.ne_none_iff_exists'.mp fun hnone => ?_
  obtain ⟨_, hmem, -⟩ := h.closed.mp hnone
  cases hmem

/-- The blocks of a chain: those of the branches, and that of the forward. -/
def chainBlocks (p : Program) (bs : List Branch) (otherwise : Option Forward) : List Pieces :=
  bs.map p.branchPieces ++ otherwise.toList.map fun f => braces (returnPieces f)

/-- Before a chain goes on there is an `else`. -/
theorem elseChain_cons {block : Pieces} {rest : List Pieces} (h : rest ≠ []) :
    elseChain (block :: rest) = block ++ words "else" ++ elseChain rest := by
  cases rest with
  | nil => exact absurd rfl h
  | cons next rest => rfl

/-- A chain has a block. -/
theorem IsChain.chainBlocks_ne_nil {bs : List Branch} {otherwise : Option Forward}
    (h : IsChain bs otherwise) : p.chainBlocks bs otherwise ≠ [] := by
  cases bs with
  | nil =>
      obtain ⟨f, rfl⟩ := h.exists_forward
      simp [chainBlocks]
  | cons b rest => simp [chainBlocks]

/-- **A chain is written as it is read.** -/
theorem readsChain_elseChain {bs : List Branch} {otherwise : Option Forward}
    (h : IsChain bs otherwise) :
    ReadsChain p (elseChain (p.chainBlocks bs otherwise)) bs otherwise := by
  induction bs with
  | nil =>
      obtain ⟨f, rfl⟩ := h.exists_forward
      exact .otherwise (readsForward_pieces f)
  | cons b rest ih =>
      obtain ⟨condition, statements⟩ := b
      cases condition with
      | some condition =>
          have htail := h.tail (by simp)
          have hchain : elseChain (p.chainBlocks (⟨some condition, statements⟩ :: rest) otherwise) =
              p.branchPieces ⟨some condition, statements⟩ ++ words "else" ++
                elseChain (p.chainBlocks rest otherwise) :=
            elseChain_cons htail.chainBlocks_ne_nil
          rw [hchain]
          exact .branch (readsEach_statementPieces statements) (ih htail)
      | none =>
          -- nothing stands behind a branch without a condition
          obtain rfl : rest = [] := by
            cases rest with
            | nil => rfl
            | cons next rest => exact absurd rfl (h.conditional _ List.mem_cons_self)
          obtain rfl : otherwise = none := h.closed.mpr ⟨_, List.mem_cons_self, rfl⟩
          exact .block (readsEach_statementPieces statements)

/-- What a handler does can be written: its branches are a chain. -/
def HandlerBody.IsChain : HandlerBody → Prop
  | .branches bs otherwise => Program.IsChain bs otherwise
  | .forward _ => True

/-- The body of a handler is written as it is read. -/
theorem readsBody_handlerBodyPieces {body : HandlerBody} (h : body.IsChain) :
    ReadsBody p (p.handlerBodyPieces body) body := by
  cases body with
  | forward f => exact .forward (readsForward_pieces f)
  | branches bs otherwise =>
      cases bs with
      | nil =>
          obtain ⟨f, rfl⟩ := IsChain.exists_forward h
          have htext : p.handlerBodyPieces (.branches [] (some f)) =
              spelled ["return"] ++ f.pieces ++ spelled [";"] ++ spelledOk := by
            simp only [handlerBodyPieces, Option.elim_some, returnPieces, List.append_assoc]
            rfl
          rw [htext]
          exact .noBranches (readsForward_pieces f)
      | cons b rest =>
          have htext : p.handlerBodyPieces (.branches (b :: rest) otherwise) =
              elseChain (p.chainBlocks (b :: rest) otherwise) ++ spelledOk := by
            simp only [handlerBodyPieces, List.append_assoc]
            rfl
          rw [htext]
          exact .chain (readsChain_elseChain h)

/-! ### Functions -/

/-- A function is written with its parts. -/
theorem pieces_eq_spelledFunction {f : Function} (lead : List String)
    (h : f.lead = spelled lead) :
    f.pieces = spelledFunction (lead ++ ["fn", f.ident.spelling]) f.parameters f.result f.body := by
  rw [Function.pieces, h]
  simp only [spelledFunction, spelled, List.map_append, List.append_assoc]
  rfl

/-- The result of a transition is written as it is spelled. -/
theorem unitResult_eq_spelledResult (p : Program) : p.unitResult = p.spelledResult := by
  simp only [unitResult, resultType, runtimeType, spelledResult, List.append_assoc]
  rfl

/-- A handler is written as it is read. -/
theorem readsHandler_handlerFunction {h : Handler} (hbody : h.body.IsChain) :
    ReadsHandler p (p.handlerFunction h).pieces h := by
  rw [pieces_eq_spelledFunction [] rfl]
  simp only [handlerFunction, unitResult_eq_spelledResult]
  exact .intro (readsBody_handlerBodyPieces hbody)

/-- An arm is written as it is read. -/
theorem readsArm_forwardArm (v : Variant) (f : Forward) : ReadsArm p v f (p.forwardArm v f) := by
  have htext : p.forwardArm v f =
      p.spelledVariant v ++ spelled ["=", ">"] ++ f.pieces ++ spelled [","] := by
    simp only [forwardArm, armPieces, List.append_assoc]
    rfl
  rw [htext]
  exact .intro (readsForward_pieces f)

/-- A method is written as it is read. -/
theorem readsMethod_methodFunction (m : Method) :
    ReadsMethod p (p.methodFunction m).pieces m := by
  have hbody : (p.methodFunction m).body =
      spelledCall ["self", ".", "fsm", ".", "set_transition"]
          (spelled [Rust.stringLiteral m.transition]) ++
        spelled [";", "let", "result", "="] ++
        spelledCall ["self", ".", "fsm", ".", "state"] [] ++
        spelledCall [".", "and_then"]
          (spelled ["|", "state", "|", "match", "state"] ++
            [.group .brace (m.arms.flatMap fun a => p.forwardArm a.variant a.forward)]) ++
        spelled [";"] ++
        spelledCall ["self", ".", "fsm", ".", "set_transition"]
          (spelled [Rust.stringLiteral ""]) ++
        spelled [";", "result"] := by
    simp only [methodFunction, List.append_assoc]
    rfl
  rw [pieces_eq_spelledFunction ["pub"] rfl, hbody]
  simp only [methodFunction, unitResult_eq_spelledResult]
  exact .intro (Rust.stringValue?_stringLiteral m.transition) (Rust.stringValue?_stringLiteral "")
    (readsEach_flatMap fun a _ => readsArm_forwardArm a.variant a.forward)

/-! ### Dispatchers -/

/-- The arms of a dispatcher of entry or exit actions, and the last arm. -/
def actionArms (p : Program) (commands : Dispatch → List Command) (ds : List Dispatch) : Pieces :=
  (ds.flatMap fun d =>
    if (commands d).isEmpty then []
    else p.armPieces d.variant (braces ((commands d).flatMap Command.pieces))) ++
  words "_ = >" ++ braces []

/-- The arms of a dispatcher are written as they are read. -/
theorem readsActions_actionArms (commands : Dispatch → List Command) (ds : List Dispatch) :
    ReadsActions p commands (p.actionArms commands ds) ds := by
  induction ds with
  | nil => exact .rest
  | cons d rest ih =>
      by_cases hnone : commands d = []
      · have htext : p.actionArms commands (d :: rest) = p.actionArms commands rest := by
          simp [actionArms, hnone]
        rw [htext]
        exact .none hnone ih
      · have htext : p.actionArms commands (d :: rest) =
            p.spelledVariant d.variant ++ spelled ["=", ">"] ++
              [.group .brace ((commands d).flatMap Command.pieces)] ++
                p.actionArms commands rest := by
          have hempty : ¬(commands d).isEmpty = true := by simpa using hnone
          simp only [actionArms, List.flatMap_cons, if_neg hempty, List.append_assoc]
          rfl
        rw [htext]
        exact .arm (readsEach_flatMap fun c _ => readsCommand_pieces c) ih

/-- A dispatcher of entry or exit actions is written as it is read. -/
theorem readsActionDispatcher_actionDispatcher (title : String)
    (commands : Dispatch → List Command) :
    ReadsActionDispatcher p title commands (p.actionDispatcher title commands).pieces := by
  have harms := readsActions_actionArms (p := p) commands p.dispatch
  rw [pieces_eq_spelledFunction [] rfl]
  simp only [actionDispatcher]
  exact .intro harms

/-- The dispatcher of `Default` transitions is written as it is read. -/
theorem readsDefaultDispatcher_defaultDispatcher :
    ReadsDefaultDispatcher p p.defaultDispatcher.pieces := by
  rw [pieces_eq_spelledFunction [] rfl]
  simp only [defaultDispatcher, unitResult_eq_spelledResult]
  exact .intro (readsEach_flatMap fun d _ => readsArm_forwardArm d.variant d.fallback)

/-- The end of all forwards is written as it is read. -/
theorem readsUnhandledBody_unhandledBody : ReadsUnhandledBody p p.unhandledBody := by
  unfold unhandledBody
  split_ifs with hpanics
  · exact .panics hpanics (Rust.stringValue?_stringLiteral _)
  · have hfails := ReadsUnhandledBody.fails (eq_false_of_ne_true hpanics) rfl
    rw [List.append_assoc] at hfails
    simp only [runtimeValue, List.append_assoc]
    exact hfails

/-- So is the function that ends all forwards. -/
theorem readsUnhandled_unhandledFunction : ReadsUnhandled p p.unhandledFunction.pieces := by
  rw [pieces_eq_spelledFunction [] rfl]
  simp only [unhandledFunction, unitResult_eq_spelledResult]
  exact .intro readsUnhandledBody_unhandledBody

/-! ### Programs -/

/-- What is in a text is in every text around it. -/
theorem Holds.append {inner text : Pieces} (h : Holds inner text) (before after : Pieces) :
    Holds inner (before ++ text ++ after) := by
  cases h with
  | here before' after' =>
      have hhere : Holds inner (before ++ before' ++ inner ++ (after' ++ after)) := .here _ _
      simpa only [List.append_assoc] using hhere
  | @inside before' after' body hbody =>
      have hinside := Holds.inside (before ++ before') (after' ++ after) hbody
      simpa only [List.append_assoc, List.cons_append] using hinside

/-- What is in a text is in it inside of a module. -/
theorem Holds.insideModule {inner text : Pieces} (h : Holds inner text) (module : Rust.Ident) :
    Holds inner (Program.insideModule module text) := by
  have hbody := h.append (attributeList "allow" ["unused_imports"] ++ words "use super : : * ;") []
  rw [List.append_nil] at hbody
  exact .inside (words "pub mod" ++ name module) [] hbody

/-- The functions of the context are written as they are read. -/
theorem exists_readsContext (h : ∀ handler ∈ p.handlers, handler.body.IsChain) :
    ∃ before context, p.contextMethods = before ++ context ∧ ReadsContext p context := by
  have hmethods : ReadsEach (ReadsMethod p)
      (p.methods.flatMap fun m => (p.methodFunction m).pieces) p.methods :=
    readsEach_flatMap fun m _ => readsMethod_methodFunction m
  have hhandlers : ReadsEach (ReadsHandler p)
      (p.handlers.flatMap fun handler => (p.handlerFunction handler).pieces) p.handlers :=
    readsEach_flatMap fun handler hmem => readsHandler_handlerFunction (h handler hmem)
  have hreads := ReadsContext.intro
    (functionPieces (p.basicFunctions ++ if p.isSerial then p.serialFunctions else []))
    hmethods hhandlers (readsActionDispatcher_actionDispatcher "on_entry" Dispatch.entry)
    (readsActionDispatcher_actionDispatcher "on_exit" Dispatch.exit)
    readsDefaultDispatcher_defaultDispatcher readsUnhandled_unhandledFunction
  refine ⟨attributeList "allow"
      ["dead_code", "non_snake_case", "unused_variables", "unreachable_code",
       "unreachable_patterns", "clippy : : all"], _, ?_, hreads⟩
  simp only [contextMethods, contextFunctions, dispatchFunctions, functionPieces,
    List.flatMap_append, List.flatMap_cons, List.flatMap_nil, List.flatMap_map,
    List.append_assoc, List.append_nil]
  rfl

/-- A program whose handlers are chains stands in what is written of it. -/
theorem standsIn_pieces (h : ∀ handler ∈ p.handlers, handler.body.IsChain) :
    p.StandsIn p.pieces := by
  obtain ⟨before, context, hcontext, hreads⟩ := exists_readsContext h
  refine ⟨context, hreads, ?_⟩
  have hinner : Holds context
      (p.importPieces ++ p.enumPieces ++ p.enumMethods ++ p.enumInstance ++ p.contextPieces ++
        p.contextMethods ++ p.contextDefault ++ if p.isShared then p.sharedPieces else []) := by
    rw [hcontext]
    have hhere : Holds context
        (p.importPieces ++ p.enumPieces ++ p.enumMethods ++ p.enumInstance ++ p.contextPieces ++
          before ++ context ++
          (p.contextDefault ++ if p.isShared then p.sharedPieces else [])) := .here _ _
    simpa only [List.append_assoc] using hhere
  unfold pieces
  induction p.modules with
  | nil => exact hinner
  | cons module rest ih => exact ih.insideModule module

end

/-- A branch has no condition if its guard is unconditional. -/
theorem Branch.isNone_condition_of_ofGuard {m : Machine} {o : OutputOptions} {map : Map}
    {s : State} {t : Transition} {g : Guard} {b : Branch}
    (h : Branch.ofGuard m o map s t g = .ok b) : b.condition.isNone = g.isUnconditional := by
  simp only [Branch.ofGuard, bind_eq_ok_iff, pure, Except.pure, Except.ok.injEq] at h
  obtain ⟨_, -, _, -, _, -, condition, hcondition, rfl⟩ := h
  unfold Branch.conditionOf at hcondition
  split_ifs at hcondition with hguard
  · obtain rfl := Except.ok.inj hcondition
    exact hguard.symm
  · obtain ⟨e, -, hcondition⟩ := bind_eq_ok_iff.mp hcondition
    obtain rfl := Except.ok.inj hcondition
    exact (eq_false_of_ne_true hguard).symm

/-- **The branches of a handler are a chain**, if no guard stands behind an unconditional
one. -/
theorem Handler.isChain_of_ofTransition {m : Machine} {o : OutputOptions} {map : Map}
    {s : State} {t : Transition} (ht : t.WellFormed) {h : Handler}
    (hok : Handler.ofTransition m o map s t = .ok h) : h.body.IsChain := by
  obtain ⟨-, -, bs, otherwise, hbody, hbs, hotherwise⟩ := Handler.ofTransition_eq_ok_iff.mp hok
  have hnone : bs.map (·.condition.isNone) = t.guards.map Guard.isUnconditional :=
    map_eq_of_mapM_eq_ok hbs fun g _ b hb => Branch.isNone_condition_of_ofGuard hb
  rw [hbody]
  refine ⟨fun b hb hcondition => ?_, ?_⟩
  · have hmem : true ∈ (t.guards.map Guard.isUnconditional).dropLast := by
      rw [← hnone, ← List.map_dropLast]
      exact List.mem_map.mpr ⟨b, hb, by rw [hcondition]; rfl⟩
    rw [← List.map_dropLast] at hmem
    obtain ⟨g, hg, hunconditional⟩ := List.mem_map.mp hmem
    rw [ht.conditional g hg] at hunconditional
    cases hunconditional
  · have hexists : t.hasUnconditionalGuard = true ↔ ∃ b ∈ bs, b.condition = none := by
      have hmem : true ∈ t.guards.map Guard.isUnconditional ↔
          true ∈ bs.map (·.condition.isNone) := by rw [hnone]
      simpa [Transition.hasUnconditionalGuard] using hmem
    rw [← hexists]
    rcases hotherwise with ⟨hguard, rfl⟩ | ⟨f, hguard, rfl, -⟩
    · simp [hguard]
    · simp [hguard]

end Program

open Program in
/-- **The program of a machine stands in what is written of it**, if the machine is well
formed. -/
theorem Validated.Makes.standsIn {v : Validated} {o : OutputOptions} {p : Program}
    (h : v.Makes o p) (hwf : v.machine.WellFormed) : p.StandsIn p.pieces := by
  refine standsIn_pieces fun handler hmem => ?_
  obtain ⟨map, hmap, ⟨s, hs, t, ht, hok⟩ | ⟨t, -, hok⟩⟩ := h.mem_handlers_iff.mp hmem
  · exact Handler.isChain_of_ofTransition
      ((((hwf.maps map hmap).states s hs).transitions) t ht) hok
  · rw [(Handler.forwarding_eq_ok_iff.mp hok).2.2]
    trivial

end StateMachine
