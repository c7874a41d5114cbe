import StateMachine.Machine.Transition

/-!
# Signatures

The signature of a transition is its name and the types of its parameters; the parameters'
names do not count. Signatures are ordered by name, then by number of parameters, then by
types from left to right. Texts are ordered by code point, which is also the order of
their UTF-8 bytes.

Several states may declare one signature. `mergeTransitions` keeps one transition of each,
in signature order; of equal ones it keeps the first.
-/

namespace StateMachine

namespace Transition

/-- The order of signatures. -/
def compareSignature (a b : Transition) : Ordering :=
  ((compare a.name b.name).then (compare a.parameters.length b.parameters.length)).then
    (compare a.parameterTypes b.parameterTypes)

/-- Whether two transitions have one signature. -/
def sameSignature (a b : Transition) : Bool :=
  a.compareSignature b = .eq

/-- Whether the signature of `a` comes before that of `b` or is the same. -/
def signatureLe (a b : Transition) : Bool :=
  (a.compareSignature b).isLE

end Transition

/-- Puts a transition in front of the first one that it does not come after. -/
def insertBySignature (t : Transition) : List Transition → List Transition
  | [] => [t]
  | u :: rest => if t.signatureLe u then t :: u :: rest else u :: insertBySignature t rest

/-- The transitions in signature order. Those of one signature stay in their order. -/
def sortBySignature : List Transition → List Transition
  | [] => []
  | t :: rest => insertBySignature t (sortBySignature rest)

/-- The transitions that differ in signature from the one kept before them, which is
`last` for the first. -/
def dropRepeats (last : Transition) : List Transition → List Transition
  | [] => []
  | t :: rest =>
    if t.sameSignature last then dropRepeats last rest else t :: dropRepeats t rest

/-- Keeps the first of neighbouring transitions with one signature. -/
def keepFirstOfRuns : List Transition → List Transition
  | [] => []
  | t :: rest => t :: dropRepeats t rest

/-- One transition of each signature, in signature order; of equal ones the first. -/
def mergeTransitions (ts : List Transition) : List Transition :=
  keepFirstOfRuns (sortBySignature ts)

/-- The first transition of each name that is not in `seen`, in order. -/
def firstOfNamesBut (seen : List String) : List Transition → List Transition
  | [] => []
  | t :: rest =>
    if t.name ∈ seen then firstOfNamesBut seen rest
    else t :: firstOfNamesBut (t.name :: seen) rest

/-- The first transition of each name, in order. -/
def firstOfEachName (ts : List Transition) : List Transition :=
  firstOfNamesBut [] ts

end StateMachine
