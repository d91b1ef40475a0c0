import Descent.Error
import Descent.Furthest

/-!
# Steps

* `Step α`: what one run of a parser comes back with
* `Step.aggregate` adds a witness seen before the run, `Step.map` changes the value
* `Step.trail` is the line that a traced run leaves
-/

namespace Descent

/-- What a run comes back with: a value and where to go on, a failure with its witness, or a grammar error.
A success may carry the deepest failure met on the way. -/
inductive Step (α : Type) where
  | success (value : α) (next : Nat) (furthest : Option Furthest)
  | fail (pos : Nat) (furthest : Furthest)
  | error (e : DefinitionError)
  deriving DecidableEq, Repr

namespace Step

variable {α β : Type}

/-- A success that saw no failure. -/
def done (value : α) (pos : Nat) : Step α := .success value pos none

/-- A failure that expected one thing. -/
def failed (pos : Nat) (description : String) : Step α := .fail pos (.of pos description)

/-- Adds a witness that was seen before this step. -/
def aggregate (seen : Option Furthest) : Step α → Step α
  | success v next f => success v next (Furthest.merge f seen)
  | fail pos f => fail pos (f.absorb seen)
  | error e => error e

def map (f : α → β) : Step α → Step β
  | success v next w => success (f v) next w
  | fail pos w => fail pos w
  | error e => error e

def isSuccess : Step α → Bool
  | success .. => true
  | _ => false

def value? : Step α → Option α
  | success v _ _ => some v
  | _ => none

def error? : Step α → Option DefinitionError
  | error e => some e
  | _ => none

/-- Where the run goes on, or where it failed. -/
def pos? : Step α → Option Nat
  | success _ next _ => some next
  | fail pos _ => some pos
  | error _ => none

def furthest? : Step α → Option Furthest
  | success _ _ f => f
  | fail _ f => some f
  | error _ => none

/-- The line that a labelled step leaves in a log. -/
def trail (label : String) (inspect : α → String) : Step α → String
  | success v next _ => "debug | " ++ label ++ s!" success, pos: {next}, res: " ++ inspect v
  | fail pos f => "debug | " ++ label ++ s!" fail, pos: {pos}, furthest: {f.pos} " ++ Expected.quoted f.expected
  | error e => "debug | " ++ label ++ " error " ++ e.inspect

@[simp] theorem aggregate_none (s : Step α) : s.aggregate none = s := by
  cases s <;> simp [aggregate]

theorem map_map {γ : Type} (f : α → β) (g : β → γ) (s : Step α) : (s.map f).map g = s.map fun v => g (f v) := by
  cases s <;> rfl

@[simp] theorem map_aggregate (f : α → β) (w : Option Furthest) (s : Step α) :
    (s.aggregate w).map f = (s.map f).aggregate w := by
  cases s <;> rfl

end Step

end Descent
