import Descent.Step

/-!
# Checks on steps

* `Check.expect`, `expectPos`, `fail`, `failOn`, `expectError`: what a test expects of a step
* `Check.Verdict`: a check passes, or finds another value, or refuses the step with a message
-/

namespace Descent.Check

/-- What comes of a check. -/
inductive Verdict where
  | passed
  /-- The step is of the right kind but holds something else. -/
  | unequal
  | refused (message : String)
  deriving DecidableEq, Repr

def same (b : Bool) : Verdict := if b then .passed else .unequal

variable {α : Type}

/-- A success with a value. -/
def expect [BEq α] (step : Step α) (value : α) : Verdict :=
  match step with
  | .success v _ _ => same (v == value)
  | .fail pos w =>
    .refused (s!"A step failed on a position {pos}, expecting " ++ Expected.quoted w.expected ++ s!" on {w.pos}")
  | .error e => .refused ("A step finished with an error " ++ e.inspect)

/-- A success that goes on at an offset. -/
def expectPos (step : Step α) (offset : Nat) : Verdict :=
  match step with
  | .success _ next _ => same (next == offset)
  | .fail pos _ => .refused s!"A step failed on a position {pos}"
  | .error e => .refused ("A step finished with an error " ++ e.inspect)

def succeeded (next : Nat) : String := s!"A step should failed but successes on a position {next}"

def errored (e : DefinitionError) : String := "A step should failed but errored with an error " ++ e.inspect

/-- A failure. -/
def fail : Step α → Verdict
  | .success _ next _ => .refused (succeeded next)
  | .fail .. => .passed
  | .error e => .refused (errored e)

/-- A failure at an offset. -/
def failOn (step : Step α) (offset : Nat) : Verdict :=
  match step with
  | .success _ next _ => .refused (succeeded next)
  | .fail pos _ => same (pos == offset)
  | .error e => .refused (errored e)

/-- A grammar error. -/
def expectError : Step α → Verdict
  | .success _ next _ => .refused s!"A step should errored but successes on a position {next}"
  | .fail pos _ => .refused s!"A step should errored but failed on a position {pos}"
  | .error _ => .passed

/-! ## Lexing -/

/-- A source that falls into some tokens. -/
def expectTokens {τ : Type} [BEq τ] (lexed : Except LexError (List τ)) (tokens : List τ) : Verdict :=
  match lexed with
  | .ok found => same (found == tokens)
  | .error e => .refused ("the test failed due to error: " ++ e.inspect)

/-- A source that does not fall into tokens. -/
def expectNoTokens {τ : Type} (lexed : Except LexError (List τ)) : Verdict :=
  match lexed with
  | .ok _ => .refused "the test failed due to expectation to get an error but tokens have been lexed"
  | .error _ => .passed

end Descent.Check
