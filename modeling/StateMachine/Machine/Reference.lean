import StateMachine.Text.Blank
import StateMachine.Text.Separator

/-!
# State References and End States

A guard names the states it leads to by references. A reference is either a state name
alone, which means a state of the map the guard stands in, or a name qualified by a map:
`Map::State`. The first `::` of a text separates, so neither part is examined further.

An end state is a reference or `nil`, the state the machine is in.

## Main results

* `Reference.text_parse`: a text is what its reference prints.
-/

namespace StateMachine

/-- The name of a state, alone or qualified by the name of a map. -/
structure Reference where
  /-- The qualifying map, if there is one. -/
  map : Option String := none
  state : String
  deriving DecidableEq, Repr

namespace Reference

/-- A state named without its map. -/
def unqualified (state : String) : Reference := { state }

/-- A state named with its map. -/
def qualified (map state : String) : Reference := { map := some map, state }

/-- Reads `Map::State` as a qualified reference and any other text as a state name. -/
def parse (s : String) : Reference :=
  match Text.cutAtColons s.toList with
  | some (map, state) => qualified (String.ofList map) (String.ofList state)
  | none => unqualified s

/-- The map that the reference means when it stands in the map `current`. -/
def mapOr (r : Reference) (current : String) : String :=
  r.map.getD current

/-- The reference as written: `State` or `Map::State`. -/
def text (r : Reference) : String :=
  match r.map with
  | some map => map ++ "::" ++ r.state
  | none => r.state

/-- Reading loses nothing: the reference of a text prints as that text. -/
theorem text_parse (s : String) : (parse s).text = s := by
  unfold parse
  split
  · next map state h =>
    have hs := Text.eq_append_of_cutAtColons h
    rw [← String.ofList_toList (s := s), hs]
    simp only [text, qualified, String.ofList_append, String.ofList_cons,
      String.append_assoc]
    have hcolons : "::" = ":" ++ ":" := rfl
    rw [hcolons, String.append_assoc]
    rfl
  · rfl

end Reference

/-- The name of a state in the output, `Map.State`: a qualified name keeps its map, any
other is given the map `map`. -/
def scopedName (name map : String) : String :=
  match Text.cutAtColons name.toList with
  | some (before, after) => String.ofList before ++ "." ++ String.ofList after
  | none => map ++ "." ++ name

/-- Where a transition ends: in the state the machine is in, or in a named one. -/
inductive EndState where
  | nil
  | named (target : Reference)
  deriving DecidableEq, Repr

namespace EndState

/-- The word for the state the machine is in. -/
def nilWord : String := "nil"

/-- Reads a blank text or `nil` as the state the machine is in and any other text, without
its blank ends, as a reference. -/
def parse (s : String) : EndState :=
  let name := Text.trim s
  if name = "" ∨ name = nilWord then .nil else .named (Reference.parse name)

/-- Whether the end state is the state the machine is in. -/
def isNil : EndState → Bool
  | .nil => true
  | .named _ => false

/-- The reference of a named end state. -/
def reference? : EndState → Option Reference
  | .nil => none
  | .named target => some target

/-- The end state as written. -/
def text : EndState → String
  | .nil => nilWord
  | .named target => target.text

end EndState

end StateMachine
