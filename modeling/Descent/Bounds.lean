/-!
# Bounds on repetition

* `Bounds`: how many items a repetition takes
* `Bounds.range` and its kin: the bounds of a range of counts
* `CountRange`: the ranges of counts by kind, and what bounds each of them stands for
-/

namespace Descent

/-- The least number of items, and the greatest where there is one. -/
structure Bounds where
  min : Nat
  max : Option Nat
  deriving DecidableEq, Repr, Inhabited

namespace Bounds

def exactly (n : Nat) : Bounds := ⟨n, some n⟩

def atLeast (n : Nat) : Bounds := ⟨n, none⟩

def atMost (n : Nat) : Bounds := ⟨0, some n⟩

/-- Any number at all. -/
def any : Bounds := atLeast 0

/-- From `a` up to but not including `b`. -/
def range (a b : Nat) : Bounds := ⟨a, some (b - 1)⟩

/-- From `a` up to and including `b`. -/
def rangeIncl (a b : Nat) : Bounds := ⟨a, some b⟩

/-- Fewer than `b`. -/
def below (b : Nat) : Bounds := atMost (b - 1)

/-- The largest number of further runs that the bounds ask for, where `budget` stands in for no greatest number. -/
def allowance (b : Bounds) (budget : Nat) : Nat := b.max.getD (b.min + budget)

end Bounds

/-- The ranges of counts. -/
inductive CountRange where
  /-- From `a` up to but not including `b`. -/
  | halfOpen (a b : Nat)
  /-- From `a` up to and including `b`. -/
  | closed (a b : Nat)
  /-- From `a` on. -/
  | startingAt (a : Nat)
  /-- All below `b`. -/
  | below (b : Nat)
  /-- All up to and including `b`. -/
  | upTo (b : Nat)
  | full
  deriving DecidableEq, Repr

/-- The bounds that a range stands for. -/
def CountRange.bounds : CountRange → Bounds
  | halfOpen a b => .range a b
  | closed a b => .rangeIncl a b
  | startingAt a => .atLeast a
  | below b => .below b
  | upTo b => .atMost b
  | full => .any

end Descent
