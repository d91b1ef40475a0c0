import Descent.Expected

/-!
# Furthest failures

* `Furthest`: the deepest offset at which a run has failed, with everything that was expected there
* `Furthest.absorb`, `Furthest.merge`: the deeper of two wins, and two at one offset unite what they expected
-/

namespace Descent

/-- The deepest offset at which a run has failed, and what it could have gone on with there. -/
structure Furthest where
  pos : Nat
  expected : Expected
  deriving DecidableEq, Repr, Inhabited

namespace Furthest

def of (pos : Nat) (description : String) : Furthest := ⟨pos, .single description⟩

/-- A failure that expected nothing. -/
def nothing (pos : Nat) : Furthest := ⟨pos, .empty⟩

/-- Takes another witness in: the deeper one stays, and at one offset both do. -/
def absorb (f : Furthest) : Option Furthest → Furthest
  | none => f
  | some g => if f.pos < g.pos then g else if g.pos < f.pos then f else ⟨f.pos, Expected.union f.expected g.expected⟩

/-- The same for witnesses that may be missing. -/
def merge : Option Furthest → Option Furthest → Option Furthest
  | some f, g => some (f.absorb g)
  | none, g => g

@[simp] theorem absorb_none (f : Furthest) : f.absorb none = f := rfl

@[simp] theorem merge_none_left (g : Option Furthest) : merge none g = g := rfl

@[simp] theorem merge_none_right (f : Option Furthest) : merge f none = f := by cases f <;> rfl

@[simp] theorem merge_some_left (f : Furthest) (g : Option Furthest) : merge (some f) g = some (f.absorb g) := rfl

end Furthest

end Descent
