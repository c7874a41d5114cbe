import StateMachine.Text.Blank

/-!
# Actions

An action is something a machine does when it takes a transition or enters or leaves a
state: a method call on the owner of the machine, an assignment to one of the owner's
properties, or the one built-in action, `emptyStateStack`, which the machine's own context
carries out.

Blank arguments are placeholders. They are kept as written in `rawArguments` and skipped
by `arguments`, which is what every output uses.
-/

namespace StateMachine

/-- Who carries an action out: the machine's context or its owner. -/
inductive Receiver where
  | context
  | owner
  deriving DecidableEq, Repr

/-- A call, or an assignment to a property, with the line that declares it. -/
structure Action where
  /-- The method or property. -/
  name : String
  line : Nat := 0
  /-- The arguments as written, blank ones included. -/
  rawArguments : List String := []
  /-- Whether the action is an assignment to a property. -/
  isProperty : Bool := false
  /-- Whether the action was marked as a default. -/
  isDefault : Bool := false
  deriving DecidableEq, Repr

namespace Action

/-- The action that the context carries out itself. -/
def emptyStateStack : String := "emptyStateStack"

/-- The arguments that are not blank, in order. -/
def arguments (a : Action) : List String :=
  a.rawArguments.filter fun argument => !Text.isBlankText argument

/-- The context empties its state stack; the owner does everything else. -/
def receiver (a : Action) : Receiver :=
  if a.name = emptyStateStack then .context else .owner

/-- The action as a description writes it: `name(a, b)`, or `name = a` for a property.
A property without argument is written with an empty value. -/
def text (a : Action) : String :=
  if a.isProperty then a.name ++ " = " ++ a.arguments.headD ""
  else a.name ++ "(" ++ ", ".intercalate a.arguments ++ ")"

end Action

end StateMachine
