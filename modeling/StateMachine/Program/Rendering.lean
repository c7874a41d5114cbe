import StateMachine.Program.Basic
import StateMachine.Rust.Quote

/-!
# Programs as Rust

A program is written as pieces: fixed words, names, and the fragments of the description as
they were read. Fixed words are given as text with blanks between the tokens, and
punctuation is one character a token.

Whatever is implemented for a type is a list of functions, each given as a `Function`, so that
it can be asked which functions there are.

The order of a module is: imports; the enumeration of the states; the context with its own
methods, the methods of the transitions, the handlers and the dispatchers; the wrapper for
use from several threads, if there is one; all of it inside the modules of the package.
-/

namespace StateMachine.Program

open Rust (Piece Ident Fragment stringLiteral)

/-- Pieces of a program. -/
abbrev Pieces := List Piece

/-! ### Writing -/

/-- Fixed words with blanks between them. -/
def words (s : String) : Pieces :=
  (Text.splitAtChar ' ' s.toList).map fun word => .token (String.ofList word)

/-- A name. -/
def name (i : Ident) : Pieces := [.token i.spelling]

/-- A string literal. -/
def quoted (s : String) : Pieces := [.token (stringLiteral s)]

/-- Pieces in parentheses. -/
def parens (ps : Pieces) : Pieces := [.group .paren ps]

/-- Pieces in square brackets. -/
def brackets (ps : Pieces) : Pieces := [.group .bracket ps]

/-- Pieces in braces. -/
def braces (ps : Pieces) : Pieces := [.group .brace ps]

/-- A call without arguments. -/
def emptyCall (s : String) : Pieces := words s ++ parens []

/-- An attribute. -/
def hashAttribute (ps : Pieces) : Pieces := words "#" ++ brackets ps

/-- A comment on what follows. -/
def comment (s : String) : Pieces := hashAttribute (words "doc =" ++ quoted s)

/-- Words with commas between them. -/
def commaWords (ws : List String) : Pieces := words (" , ".intercalate ws)

/-- An attribute with words in parentheses. -/
def attributeList (head : String) (ws : List String) : Pieces :=
  hashAttribute (words head ++ parens (commaWords ws))

/-- Names, each behind a comma. -/
def furtherNames (is : List Ident) : Pieces :=
  is.flatMap fun i => words "," ++ name i

/-- Fragments, each behind a comma. -/
def furtherFragments (fs : List Fragment) : Pieces :=
  fs.flatMap fun f => words "," ++ f.pieces

/-- Fragments with commas between them. -/
def commaFragments : List Fragment → Pieces
  | [] => []
  | f :: fs => f.pieces ++ furtherFragments fs

/-! ### Functions -/

/-- A function to write. -/
structure Function where
  /-- What stands before `fn`. -/
  lead : Pieces := []
  ident : Ident
  parameters : Pieces := []
  /-- The arrow and the type of the result, if it has one. -/
  result : Pieces := []
  body : Pieces

/-- A function as it is written. -/
def Function.pieces (f : Function) : Pieces :=
  f.lead ++ words "fn" ++ name f.ident ++ parens f.parameters ++ f.result ++ braces f.body

/-- Functions as they are written, one after the other. -/
def functionPieces (fs : List Function) : Pieces :=
  fs.flatMap Function.pieces

/-! ### Names and types of a program -/

/-- The name of the enumeration of states. -/
def stateEnum (p : Program) : Pieces := name p.owner.stateEnum

/-- The name of the context. -/
def context (p : Program) : Pieces := name p.owner.context

/-- The name of the wrapper for use from several threads. -/
def sharedContext (p : Program) : Pieces := name p.owner.sharedContext

/-- A variant with its enumeration. -/
def variantPath (p : Program) (v : Variant) : Pieces :=
  p.stateEnum ++ words ": :" ++ name v.ident

/-- What the runtime library calls `s`, in a type. -/
def runtimeType (p : Program) (s : String) : Pieces :=
  p.runtime.pieces ++ words ": :" ++ words s

/-- What the runtime library calls `s`, in an expression. -/
def runtimeValue (p : Program) (s : String) : Pieces :=
  p.runtime.pathInExpression?.getD p.runtime.pieces ++ words ": :" ++ words s

/-- The result type of whatever can fail. -/
def resultType (p : Program) (value : Pieces) : Pieces :=
  words "- > Result <" ++ value ++ words "," ++ p.runtimeType "TransitionError" ++ words ">"

/-- The result type of a transition. -/
def unitResult (p : Program) : Pieces := p.resultType (parens [])

/-- The parameter for the owner. -/
def ownerParameter (p : Program) : Pieces :=
  words "ctxt : & mut" ++ name p.owner

/-- The parameter for the state. -/
def stateParameter (p : Program) : Pieces :=
  words "state :" ++ p.stateEnum

/-- Parameters, each behind a comma. -/
def furtherParameters (bs : List Binding) : Pieces :=
  bs.flatMap fun b => words "," ++ name b.name ++ words ":" ++ b.type.pieces

/-! ### Statements -/

/-- A command. -/
def Command.pieces : Command → Pieces
  | .emptyStack => emptyCall "self . fsm . empty_state_stack" ++ words ";"
  | .call method arguments =>
    words "ctxt ." ++ name method ++ parens (commaFragments arguments) ++ words ";"
  | .assign property value =>
    words "ctxt ." ++ name property ++ words "=" ++ value.pieces ++ words ";"

/-- The state that a target means. -/
def targetPieces (p : Program) : Target → Pieces
  | .current => words "state"
  | .variant v => p.variantPath v

/-- A trace of the state with a further text. -/
def tracePieces (format text : String) : Pieces :=
  words "self . fsm . trace" ++
    parens (words "format_args !" ++
      parens (quoted format ++ words "," ++ emptyCall "state . name" ++ words "," ++
        quoted text)) ++
    words ";"

/-- A call of the exit dispatcher. -/
def leavePieces : Pieces :=
  words "self . on_exit" ++ parens (words "ctxt , state") ++ words ";"

/-- A call of the entry dispatcher. -/
def enterPieces (p : Program) (v : Variant) : Pieces :=
  words "self . on_entry" ++ parens (words "ctxt ," ++ p.variantPath v) ++ words ";"

/-- Statements for the case that the state is not the given one. -/
def unlessPieces (p : Program) (v : Variant) (body : Pieces) : Pieces :=
  words "if state ! =" ++ p.variantPath v ++ braces body

/-- A statement. -/
def statementPieces (p : Program) : Statement → Pieces
  | .traceEnter signature =>
    tracePieces "ENTER TRANSITION: \x7b\x7d.\x7b\x7d" signature
  | .traceExit transition =>
    tracePieces "EXIT TRANSITION : \x7b\x7d.\x7b\x7d" transition
  | .leave => leavePieces
  | .leaveUnless v => p.unlessPieces v leavePieces
  | .clear => emptyCall "self . fsm . clear_state" ++ words ";"
  | .command c => c.pieces
  | .catching cs =>
    words "let outcome = : : std : : panic : : catch_unwind" ++
      parens (words ": : std : : panic : : AssertUnwindSafe" ++
        parens (words "| |" ++ braces (cs.flatMap Command.pieces))) ++ words ";"
  | .setState target =>
    words "self . fsm . set_state" ++ parens (p.targetPieces target) ++ words ";"
  | .enter v => p.enterPieces v
  | .enterUnless v => p.unlessPieces v (p.enterPieces v)
  | .push v => words "self . fsm . push_state" ++ parens (p.variantPath v) ++ words ";"
  | .pop => emptyCall "self . fsm . pop_state" ++ words "? ;"
  | .popLater => words "let popped =" ++ emptyCall "self . fsm . pop_state" ++ words ";"
  | .resume =>
    words "if let Err" ++ parens (words "panic") ++ words "= outcome" ++
      braces (words ": : std : : panic : : resume_unwind" ++ parens (words "panic") ++
        words ";")
  | .checkPop => words "popped ? ;"
  | .issue i =>
    words "self ." ++ name i.method ++
      parens (words "ctxt" ++ furtherFragments i.arguments) ++ words "? ;"

/-! ### Handlers -/

/-- A forward, as an expression. -/
def Forward.pieces : Forward → Pieces
  | .handler target arguments =>
    words "self ." ++ name target.ident ++
      parens (words "ctxt , state" ++ furtherNames arguments)
  | .defaultTransition => words "self . default_transition" ++ parens (words "ctxt , state")
  | .unhandled => words "self . unhandled_transition" ++ parens (words "state")

/-- The condition of a branch and its statements in braces. -/
def branchPieces (p : Program) (b : Branch) : Pieces :=
  let block := braces (b.statements.flatMap p.statementPieces)
  match b.condition with
  | some condition => words "if" ++ condition.pieces ++ block
  | none => block

/-- Blocks with `else` between them. -/
def elseChain : List Pieces → Pieces
  | [] => []
  | [block] => block
  | block :: rest => block ++ words "else" ++ elseChain rest

/-- A forward as a statement. -/
def returnPieces (f : Forward) : Pieces :=
  words "return" ++ f.pieces ++ words ";"

/-- What a handler does. -/
def handlerBodyPieces (p : Program) : HandlerBody → Pieces
  | .branches [] otherwise =>
    otherwise.elim [] returnPieces ++ words "Ok" ++ parens (parens [])
  | .branches bs otherwise =>
    elseChain (bs.map p.branchPieces ++
        otherwise.toList.map fun f => braces (returnPieces f)) ++
      words "Ok" ++ parens (parens [])
  | .forward f => f.pieces

/-- The parameters of what works on the owner in a state. -/
def dispatchParameters (p : Program) : Pieces :=
  words "& mut self ," ++ p.ownerParameter ++ words "," ++ p.stateParameter

/-- A handler. -/
def handlerFunction (p : Program) (h : Handler) : Function where
  ident := h.name.ident
  parameters := p.dispatchParameters ++ furtherParameters h.parameters
  result := p.unitResult
  body := p.handlerBodyPieces h.body

/-! ### Methods and dispatchers -/

/-- An arm of a match over the states. -/
def armPieces (p : Program) (v : Variant) (body : Pieces) : Pieces :=
  p.variantPath v ++ words "= >" ++ body

/-- An arm that forwards. -/
def forwardArm (p : Program) (v : Variant) (f : Forward) : Pieces :=
  p.armPieces v (f.pieces ++ words ",")

/-- The method of a transition. -/
def methodFunction (p : Program) (m : Method) : Function where
  lead := words "pub"
  ident := m.ident
  parameters := words "& mut self ," ++ p.ownerParameter ++ furtherParameters m.parameters
  result := p.unitResult
  body :=
    words "self . fsm . set_transition" ++ parens (quoted m.transition) ++ words ";" ++
    words "let result =" ++ emptyCall "self . fsm . state" ++ words ". and_then" ++
    parens (words "| state | match state" ++
      braces (m.arms.flatMap fun a => p.forwardArm a.variant a.forward)) ++ words ";" ++
    words "self . fsm . set_transition" ++ parens (quoted "") ++ words "; result"

/-- A dispatcher of entry or exit actions, which runs the commands of the current state. -/
def actionDispatcher (p : Program) (title : String) (commands : Dispatch → List Command) :
    Function :=
  let arm := fun (d : Dispatch) =>
    if (commands d).isEmpty then []
    else p.armPieces d.variant (braces ((commands d).flatMap Command.pieces))
  { ident := { text := title }
    parameters := p.dispatchParameters
    body := words "match state" ++
      braces (p.dispatch.flatMap arm ++ words "_ = >" ++ braces []) }

/-- The dispatcher of `Default` transitions. -/
def defaultDispatcher (p : Program) : Function where
  ident := { text := "default_transition" }
  parameters := p.dispatchParameters
  result := p.unitResult
  body := words "match state" ++
    braces (p.dispatch.flatMap fun d => p.forwardArm d.variant d.fallback)

/-- What happens with an unhandled transition: a panic, or an error. -/
def unhandledBody (p : Program) : Pieces :=
  if p.panics then
    words "panic !" ++
      parens (quoted "no transition `\x7b\x7d` defined in state `\x7b\x7d`" ++
        words "," ++ emptyCall "self . fsm . transition" ++ words "," ++ emptyCall "state . name")
  else
    words "Err" ++
      parens (p.runtimeValue "TransitionError : : Undefined" ++
        braces (words "state :" ++ emptyCall "state . name" ++ words ", transition :" ++
          emptyCall "self . fsm . transition" ++ words ","))

/-- The end of all forwards. -/
def unhandledFunction (p : Program) : Function where
  ident := { text := "unhandled_transition" }
  parameters := words "& self ," ++ p.stateParameter
  result := p.unitResult
  body := p.unhandledBody

/-! ### The enumeration of states -/

/-- The enumeration of the states. -/
def enumPieces (p : Program) : Pieces :=
  comment " Every state of the machine, one variant per `Map_State`." ++
    attributeList "derive" ["Debug", "Clone", "Copy", "PartialEq", "Eq", "Hash"] ++
    attributeList "allow" ["non_camel_case_types"] ++
    words "pub enum" ++ p.stateEnum ++
    braces (p.variants.flatMap fun v => name v.ident ++ words ",")

/-- The list of all states, and the names and numbers of states. -/
def enumMethods (p : Program) : Pieces :=
  let count := toString p.variants.length ++ "usize"
  words "impl" ++ p.stateEnum ++
    braces (
      comment " All states, indexed by id." ++ words "pub const ALL :" ++
      brackets (p.stateEnum ++ words ";" ++ words count) ++ words "=" ++
      brackets (p.variants.flatMap fun v => p.variantPath v ++ words ",") ++ words ";" ++
      functionPieces
        [{ lead := words "pub"
           ident := { text := "name" }
           parameters := words "self"
           result := words "- > & 'static str"
           body := p.runtimeValue "StateId : : name" ++ parens (words "self") },
         { lead := words "pub"
           ident := { text := "id" }
           parameters := words "self"
           result := words "- > usize"
           body := p.runtimeValue "StateId : : id" ++ parens (words "self") }])

/-- What the runtime library asks of states. -/
def enumInstance (p : Program) : Pieces :=
  let arm := fun (v : Variant) =>
    p.armPieces v (quoted (scopedName v.place.state v.place.map) ++ words ",")
  words "impl" ++ p.runtimeType "StateId for" ++ p.stateEnum ++
    braces (functionPieces
      [{ ident := { text := "name" }
         parameters := words "self"
         result := words "- > & 'static str"
         body := words "match self" ++ braces (p.variants.flatMap arm) },
       { ident := { text := "id" }
         parameters := words "self"
         result := words "- > usize"
         body := words "self as usize" },
       { ident := { text := "from_id" }
         parameters := words "id : usize"
         result := words "- > Option < Self >"
         body := words "Self : : ALL . get" ++ parens (words "id") ++ emptyCall ". copied" }])

/-! ### The context -/

/-- The declaration of the context. -/
def contextPieces (p : Program) : Pieces :=
  comment s!"Drives the state machine of a `{p.owner.spelling}`." ++
    attributeList "derive" ["Debug", "Clone"] ++
    words "pub struct" ++ p.context ++
    braces (words "fsm :" ++ p.runtimeType "FsmContext <" ++ p.stateEnum ++ words "> ,")

/-- The functions that every context begins with. -/
def basicFunctions (p : Program) : List Function :=
  [{ lead := words "pub"
     ident := { text := "new" }
     result := words "- > Self"
     body := words "Self" ++
      braces (words "fsm :" ++ p.runtimeValue "FsmContext : : new" ++
        parens (p.variantPath p.start) ++ words ",") },
   { lead := comment " Runs the start state's entry actions. Call once, before" ++
      comment " the first transition." ++ words "pub"
     ident := { text := "enter_start_state" }
     parameters := words "& mut self ," ++ p.ownerParameter
     result := p.unitResult
     body := words "let state =" ++ emptyCall "self . fsm . state" ++ words "? ;" ++
      words "self . on_entry" ++ parens (words "ctxt , state") ++ words "; Ok" ++
      parens (parens []) },
   { lead := words "pub"
     ident := { text := "state" }
     parameters := words "& self"
     result := p.resultType p.stateEnum
     body := emptyCall "self . fsm . state" },
   { lead := words "pub"
     ident := { text := "fsm" }
     parameters := words "& self"
     result := words "- > &" ++ p.runtimeType "FsmContext <" ++ p.stateEnum ++ words ">"
     body := words "& self . fsm" },
   { lead := words "pub"
     ident := { text := "fsm_mut" }
     parameters := words "& mut self"
     result := words "- > & mut" ++ p.runtimeType "FsmContext <" ++ p.stateEnum ++ words ">"
     body := words "& mut self . fsm" }]

/-- The snapshot and restore functions. -/
def serialFunctions (p : Program) : List Function :=
  [{ lead := comment " State ids from the bottom of the state stack up, then the" ++
      comment " current state." ++ words "pub"
     ident := { text := "snapshot" }
     parameters := words "& self"
     result := p.resultType (words "Vec < usize >")
     body := emptyCall "self . fsm . snapshot" },
   { lead := words "pub"
     ident := { text := "restore" }
     parameters := words "& mut self , ids : &" ++ brackets (words "usize")
     result := p.unitResult
     body := words "self . fsm . restore" ++ parens (words "ids") }]

/-- The dispatchers, and the end of all forwards. -/
def dispatchFunctions (p : Program) : List Function :=
  [p.actionDispatcher "on_entry" Dispatch.entry, p.actionDispatcher "on_exit" Dispatch.exit,
   p.defaultDispatcher, p.unhandledFunction]

/-- The functions of the context. -/
def contextFunctions (p : Program) : List Function :=
  p.basicFunctions ++ (if p.isSerial then p.serialFunctions else []) ++
    p.methods.map p.methodFunction ++ p.handlers.map p.handlerFunction ++ p.dispatchFunctions

/-- The methods of the context. -/
def contextMethods (p : Program) : Pieces :=
  attributeList "allow"
      ["dead_code", "non_snake_case", "unused_variables", "unreachable_code",
       "unreachable_patterns", "clippy : : all"] ++
    words "impl" ++ p.context ++ braces (functionPieces p.contextFunctions)

/-- The context by default is a new one. -/
def contextDefault (p : Program) : Pieces :=
  words "impl Default for" ++ p.context ++
    braces (functionPieces
      [{ ident := { text := "default" }
         result := words "- > Self"
         body := emptyCall "Self : : new" }])

/-! ### The shared context -/

/-- What takes the value out of a lock, whether or not a panic poisoned it. -/
def unwrapPoison : Pieces :=
  words ". unwrap_or_else" ++ parens (words ": : std : : sync : : PoisonError : : into_inner")

/-- The functions that every shared context begins with. -/
def sharedBasicFunctions (p : Program) : List Function :=
  [{ lead := words "pub"
     ident := { text := "new" }
     parameters := words "context :" ++ p.context
     result := words "- > Self"
     body := words "Self" ++
      braces (words "inner : : : std : : sync : : Mutex : : new" ++
        parens (words "context") ++ words ",") },
   { lead := comment " Locks the context. A panic inside a transition does not" ++
      comment " poison it for later callers." ++ words "pub"
     ident := { text := "lock" }
     parameters := words "& self"
     result := words "- > : : std : : sync : : MutexGuard < '_ ," ++ p.context ++ words ">"
     body := emptyCall "self . inner . lock" ++ unwrapPoison },
   { lead := words "pub"
     ident := { text := "into_inner" }
     parameters := words "self"
     result := words "- >" ++ p.context
     body := emptyCall "self . inner . into_inner" ++ unwrapPoison }]

/-- The method of a transition, on the context behind the lock. -/
def sharedMethodFunction (p : Program) (m : Method) : Function where
  lead := words "pub"
  ident := m.ident
  parameters := words "& self ," ++ p.ownerParameter ++ furtherParameters m.parameters
  result := p.unitResult
  body := emptyCall "self . lock" ++ words "." ++ name m.ident ++
    parens (words "ctxt" ++ furtherNames (m.parameters.map Binding.name))

/-- The functions of the shared context. -/
def sharedFunctions (p : Program) : List Function :=
  p.sharedBasicFunctions ++ p.methods.map p.sharedMethodFunction

/-- The wrapper for use from several threads. -/
def sharedPieces (p : Program) : Pieces :=
  comment s!"A `{p.owner.context.spelling}` usable from several threads." ++
    attributeList "derive" ["Debug"] ++
    words "pub struct" ++ p.sharedContext ++
    braces (words "inner : : : std : : sync : : Mutex <" ++ p.context ++ words "> ,") ++
  attributeList "allow" ["non_snake_case"] ++
    words "impl" ++ p.sharedContext ++ braces (functionPieces p.sharedFunctions)

/-! ### The module -/

/-- The imports. -/
def importPieces (p : Program) : Pieces :=
  p.imports.flatMap fun f => words "use" ++ f.pieces ++ words ";"

/-- Pieces inside a module. -/
def insideModule (module : Ident) (inner : Pieces) : Pieces :=
  words "pub mod" ++ name module ++
    braces (attributeList "allow" ["unused_imports"] ++ words "use super : : * ;" ++ inner)

/-- The whole program. -/
def pieces (p : Program) : Pieces :=
  p.modules.foldr insideModule
    (p.importPieces ++ p.enumPieces ++ p.enumMethods ++ p.enumInstance ++ p.contextPieces ++
      p.contextMethods ++ p.contextDefault ++ if p.isShared then p.sharedPieces else [])

/-- The lines of the program in normal form, if it has one. -/
def lines? (p : Program) : Option (List String) :=
  let pieces := p.pieces
  if Rust.haveNormalForm pieces then
    some (Rust.breakLines (Rust.dropCommas (Rust.tokensOf true pieces)))
  else none

end StateMachine.Program
