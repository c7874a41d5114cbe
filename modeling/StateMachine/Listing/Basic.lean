import StateMachine.Listing.Item
import StateMachine.Options
import StateMachine.Validation

/-!
# Listings

A listing prints a validated machine in the description language: its class and start
state, then map by map the default state and the ordinary states with their transitions.
The level of detail decides how much of it is shown.

* `names`: each transition by its name.
* `guards`: each guard of a transition with its transfer and actions. A transition without
  guards is shown by its name.
* `full`: also parameters and the arguments of pops, entry and exit actions, the machine's
  declarations and raw source text, the default transitions that are derived, and the
  states that cannot be reached.

A `Lister` is a printer that can be used again: it starts each listing on a fresh page.
-/

namespace StateMachine.Listing

/-- One line for each action. -/
def actionItems (actions : List Action) : List Item :=
  actions.map fun action => .line (action.text ++ ";")

/-- The transition's name, and at full detail its parameters if it has any. -/
def signatureText (level : Detail) (t : Transition) : String :=
  if level = .full && !t.parameters.isEmpty then t.name ++ "(" ++ t.parametersText ++ ")"
  else t.name

/-- The guard's condition and transfer; below full detail a pop is shown without its
arguments. -/
def guardText (level : Detail) (g : Guard) : String :=
  if level = .full then g.text else g.shortText

/-- A guard with the signature of its transition in front and its actions in a block. -/
def guardItem (level : Detail) (t : Transition) (g : Guard) : Item :=
  .braced (signatureText level t ++ " " ++ guardText level g) (actionItems g.actions)

/-- A transition: one line, or one item for each guard. -/
def transitionItems (level : Detail) (t : Transition) : List Item :=
  if level = .names || t.guards.isEmpty then [.line (signatureText level t)]
  else t.guards.map (guardItem level t)

/-- A block of entry or exit actions; nothing if there are none. -/
def boundaryItems (opening : String) (actions : List Action) : List Item :=
  if actions.isEmpty then [] else [.braced opening (actionItems actions)]

/-- A state: its name, its entry and exit actions at full detail, and the block of its
transitions. -/
def stateItems (level : Detail) (s : State) : List Item :=
  [.line s.className] ++
    (if level = .full then
      boundaryItems "Entry" s.entryActions ++ boundaryItems "Exit" s.exitActions
    else []) ++
    [.block "\x7b" (s.transitions.flatMap (transitionItems level))]

/-- A remark on a transition that the default state leaves to derivation. -/
def derivedItem (t : Transition) : Item :=
  .line <| "// Default::" ++ t.name ++
    (if t.name = State.defaultTransition then " is unhandled"
    else " falls back to the Default transition")

/-- A map: its heading, its states between two `%%`, and remarks at full detail. -/
def mapItems (level : Detail) (m : Map) : List Item :=
  [.blank, .line ("%map " ++ m.name), .line "%%"] ++
    m.allStates.flatMap (stateItems level) ++
    (if level = .full then m.undefinedDefaultTransitions.map derivedItem else []) ++
    [.line "%%"]

/-- The raw source text, each of its lines on a line, between `%{` and `%}`. -/
def sourceItems (source : Option String) : List Item :=
  match source with
  | some text => [.line "%\x7b"] ++ (Text.lines text).map .line ++ [.line "%\x7d"]
  | none => []

/-- One line for each value, after the keyword. -/
def declarationItems (keyword : String) (values : List String) : List Item :=
  values.map fun value => .line (keyword ++ " " ++ value)

/-- The lines before the first map. -/
def headItems (level : Detail) (m : Machine) (start : String) : List Item :=
  let full := level = .full
  (if full then sourceItems m.source else []) ++
    declarationItems "%class" [m.context] ++
    declarationItems "%package" m.package.toList ++
    (if full then
      declarationItems "%header" m.header.toList ++
        declarationItems "%include" m.includes ++
        declarationItems "%import" m.imports ++
        declarationItems "%declare" m.declarations
    else []) ++
    declarationItems "%start" [start]

/-- The remarks on states that cannot be reached. -/
def unreachableItems (level : Detail) (unreachable : List String) : List Item :=
  if level = .full && !unreachable.isEmpty then
    .blank :: declarationItems "// unreachable:" unreachable
  else []

/-- All items of a listing. -/
def items (level : Detail) (m : Machine) (start : String) (unreachable : List String) :
    List Item :=
  headItems level m start ++ m.maps.flatMap (mapItems level) ++
    unreachableItems level unreachable

/-- The start state as a listing names it. -/
def startText (v : Validated) : String :=
  v.startMap.name ++ "::" ++ v.startState.className

/-- The listing of a validated machine. -/
def render (level : Detail) (v : Validated) : String :=
  (Item.writeAll (items level v.machine (startText v) (v.unreachable.map Place.text)) {}).text

/-! ### Printers that are used again -/

/-- A printer with the page and the facts of the listing it works on. -/
structure Lister where
  level : Detail
  page : Page := {}
  start : String := ""
  unreachable : List String := []

/-- Takes up a validated machine: a fresh page, and the machine's own facts. -/
def Lister.begin (l : Lister) (v : Validated) : Lister :=
  { l with page := {}, start := startText v, unreachable := v.unreachable.map Place.text }

/-- Writes the listing of a machine on the page. Remarks that were written are dropped. -/
def Lister.write (l : Lister) (m : Machine) : Lister :=
  { l with
    page := Item.writeAll (items l.level m l.start l.unreachable) l.page
    unreachable := if l.level = .full then [] else l.unreachable }

/-- Lists a validated machine, and hands the page over. -/
def Lister.emit (l : Lister) (v : Validated) : String × Lister :=
  let written := (l.begin v).write v.machine
  (written.page.text, { written with page := {} })

/-- Validates and lists machines one after the other with one printer. A machine that
fails validation is reported and leaves the printer as it is. -/
def Lister.emitAll (l : Lister) : List Machine → List (Except Defect String)
  | [] => []
  | m :: rest =>
    match m.validate with
    | .error defect => .error defect :: l.emitAll rest
    | .ok v => .ok (l.emit v).1 :: (l.emit v).2.emitAll rest

end StateMachine.Listing
