import StateMachine.Rust.Grammar.Statement

/-!
# The Rust Grammar

The rules of the grammar, tied together.

A rule that does not take a tree itself passes to a rule further down, and there are fewer
than sixteen of these in a row; so a bound on the depth of sixteen for each tree is never
met by trees that can be read at all.
-/

namespace StateMachine.Rust.Grammar

/-- One level of the grammar over the levels below. -/
def produce (g : Rules) : Rules
  | .expression structs => expression g structs
  | .unary structs => unary g structs
  | .operand structs level => operand g structs level
  | .operandMore lhs structs level => operandMore g lhs structs level
  | .continuation lhs structs base => continuation g lhs structs base
  | .boundary => boundary g
  | .statements => statements g
  | .type plus => type g plus
  | .path inExpression => path g inExpression
  | .bound captures constants => bound g captures constants
  | .pattern => pattern g
  | .alternatives => alternatives g
  | .fields => namedFields g
  | .item => item g

/-- The grammar, as deep as `n` says. -/
def grammar : Nat → Rules
  | 0 => fun _ => failure
  | n + 1 => produce (grammar n)

/-- The grammar for the trees that are left. -/
def withGrammar {α : Type} (p : Rules → P α) : P α := do
  p (grammar (16 * (Tree.sizeAll (← get) + 4)))

/-- Reads all trees by a parser. -/
def parseAll {α : Type} (p : Rules → P α) (ts : List Tree) : Option α :=
  match (withGrammar p).run ts with
  | some (a, []) => some a
  | _ => none

end StateMachine.Rust.Grammar
