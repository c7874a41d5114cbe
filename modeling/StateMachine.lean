import StateMachine.Generation
import StateMachine.Player.Description
import StateMachine.Player.Shared
import StateMachine.Text.Quoted
import StateMachine.Traversal.Outline
import StateMachine.Proofs.Except
import StateMachine.Proofs.Execution.Restore
import StateMachine.Proofs.Construction
import StateMachine.Proofs.Machine.Signature
import StateMachine.Proofs.Machine.Merge
import StateMachine.Proofs.Machine.Derivation
import StateMachine.Proofs.Machine.Instance
import StateMachine.Proofs.Machine.Reference
import StateMachine.Proofs.Machine.Lines
import StateMachine.Proofs.Machine.Qualification
import StateMachine.Proofs.Program.Parts
import StateMachine.Proofs.Program.Methods
import StateMachine.Proofs.Program.Overloads
import StateMachine.Proofs.Program.Forwarding
import StateMachine.Proofs.Program.Dispatch
import StateMachine.Proofs.Program.Body
import StateMachine.Proofs.Program.Course
import StateMachine.Proofs.Program.Names
import StateMachine.Proofs.Program.Closure
import StateMachine.Proofs.Reachability
import StateMachine.Proofs.Interpretation
import StateMachine.Proofs.Player.Table
import StateMachine.Proofs.Player.Refinement
import StateMachine.Proofs.Program.Passage
import StateMachine.Proofs.Program.Panic
import StateMachine.Proofs.Program.Invocation
import StateMachine.Proofs.Player.Balance
import StateMachine.Proofs.Validation
import StateMachine.Proofs.Workshop
import StateMachine.Proofs.Program.Replay
import StateMachine.Proofs.Program.Parameters
import StateMachine.Proofs.Program.Flight
import StateMachine.Proofs.Player.Flight
import StateMachine.Proofs.Execution.Snapshot
import StateMachine.Proofs.Execution.Bracket
import StateMachine.Proofs.Player.Resume
import StateMachine.Proofs.Program.Options
import StateMachine.Proofs.Graph
import StateMachine.Proofs.Program.Refusals
import StateMachine.Proofs.Traversal.Visit
import StateMachine.Proofs.Traversal.Listing
import StateMachine.Proofs.Traversal.Program
import StateMachine.Proofs.Traversal.Coverage
import StateMachine.Proofs.Qualification
import StateMachine.Proofs.Lines
import StateMachine.Proofs.Unreachable
import StateMachine.Proofs.Text.Identifier
import StateMachine.Proofs.Text.Plain
import StateMachine.Proofs.Listing.Guard
import StateMachine.Proofs.Listing.Lister
import StateMachine.Proofs.Listing.Rows
import StateMachine.Proofs.Listing.Structure
import StateMachine.Proofs.Player.Shared
import StateMachine.Proofs.Rust.Fuel
import StateMachine.Proofs.Rust.Comment
import StateMachine.Proofs.Header
import StateMachine.Proofs.Traversal.Scope
