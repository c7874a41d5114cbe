import StateMachine.Rust.Grammar.Construct
import StateMachine.Rust.Grammar.Parser

/-!
# Rust Imports

What stands behind `use`: a path that ends in a name, perhaps renamed, in a star for all
names, or in braces with several such paths.
-/

namespace StateMachine.Rust.Grammar

/-- A name, or `_` in its place. -/
def newName : P (List Piece) := do
  if ← ahead (atWord "_") then word "_" else ident

/-- The only import in braces that is not `self`. In normal form no braces stand around
it. -/
def soleImport? (ps : List Piece) : Option (List Piece) :=
  match ps with
  | [] => none
  | [first] => if first.isToken "self" then none else some ps
  | first :: second :: _ =>
    let inside := if ps.getLast?.any (·.isToken ",") then ps.dropLast else ps
    if inside.any (·.isToken ",") then none
    else if first.isToken "self" && !second.isToken ":" then none
    else some inside

/-- Imports in braces. -/
def importGroup (item : P (List Piece)) : P (List Piece) := do
  let inside ← inGroup .brace (commaList item)
  let written := [Piece.group .brace inside]
  match soleImport? inside with
  | some sole => return [.either written sole]
  | none => return written

/-- An import whose paths and braces are not deeper than `n`. With `rooted`, `::` may stand
before the paths of a group, which no rule covers. -/
def importUpTo (rooted : Bool) : Nat → P (List Piece)
  | 0 => failure
  | n + 1 => do
    let ts ← get
    if atOp "*" ts then op "*"
    else if atGroup .brace ts then
      importGroup do
        let colons ← if rooted then op? "::" else pure []
        let tree ← importUpTo (rooted && colons.isEmpty) n
        return (if colons.isEmpty then [] else [.writtenOnly colons]) ++ tree
    else do
      require (atIdent ts || atAnyWord ["self", "super", "crate", "try"] ts)
      let name ← anyIdent
      let ts ← get
      if atOp "::" ts then return name ++ (← sequence [op "::", importUpTo false n])
      else if atWord "as" ts then return name ++ (← sequence [word "as", newName])
      else return name

/-- An import. -/
def importTree : P (List Piece) := do
  importUpTo false (Tree.sizeAll (← get) + 1)

/-- What stands behind `use` in an item. -/
def itemImport : P (List Piece) := do
  let colons ← op? "::"
  let tree ← importUpTo colons.isEmpty (Tree.sizeAll (← get) + 1)
  return colons ++ tree

end StateMachine.Rust.Grammar
