import StateMachine.Text.Blank

/-!
# Output Options

What to generate, and in how much detail. Words for a level of detail or an output are
read without regard to blank ends and to the case of ASCII letters.
-/

namespace StateMachine

/-- How much a listing shows: names only, guards too, or everything. -/
inductive Detail where
  | names
  | guards
  | full
  deriving DecidableEq, Repr, Ord

/-- What to generate: a Rust module or a listing. -/
inductive OutputKind where
  | rust
  | listing
  deriving DecidableEq, Repr

/-- A word that names no level of detail or no output. -/
inductive UnknownWord where
  | detail (word : String)
  | output (word : String)
  deriving DecidableEq, Repr

/-- How an unknown word is reported. -/
def UnknownWord.message : UnknownWord → String
  | .detail word => s!"unknown graph level `{word}`"
  | .output word => s!"unknown target `{word}`"

/-- A word without blank ends and with ASCII letters in lower case. -/
def normalizeWord (s : String) : String :=
  (Text.trim s).map Char.toLower

/-- Reads a level of detail, by name or by number. -/
def Detail.parse (s : String) : Except UnknownWord Detail :=
  match normalizeWord s with
  | "0" | "names" => .ok .names
  | "1" | "guards" => .ok .guards
  | "2" | "full" => .ok .full
  | word => .error (.detail word)

/-- The name of a level of detail. -/
def Detail.text : Detail → String
  | .names => "names"
  | .guards => "guards"
  | .full => "full"

/-- Reads the name of an output or its short form. -/
def OutputKind.parse (s : String) : Except UnknownWord OutputKind :=
  match normalizeWord s with
  | "rust" | "rs" => .ok .rust
  | "listing" | "sm" => .ok .listing
  | word => .error (.output word)

/-- The name of an output. -/
def OutputKind.text : OutputKind → String
  | .rust => "rust"
  | .listing => "listing"

/-- The options of a run. -/
structure OutputOptions where
  /-- Trace each transition. -/
  debug : Bool := false
  /-- Add a wrapper for use from several threads. -/
  sync : Bool := false
  /-- Add a snapshot and a restore method. -/
  serial : Bool := false
  /-- Panic on an unhandled transition instead of returning an error. -/
  noExceptions : Bool := false
  /-- Let a panic in an action pass without completing the transition. -/
  noCatch : Bool := false
  detail : Detail := .names
  /-- The path of the runtime library in generated code. -/
  runtimePath : String := "::fsmc_runtime"
  deriving DecidableEq, Repr

end StateMachine
