import Descent.Proofs.Semilattice

/-!
# Moved steps

`Step.shift k` adds `k` to every offset in a step: where the run goes on or failed, where its witness stands, and where
a repetition made no progress. Moving respects everything that combinators do with steps (`shift_map`,
`shift_aggregate`, `shift_merge`), and moving by nothing changes nothing (`shift_zero`).
-/

namespace Descent

variable {α β : Type}

def Furthest.shift (k : Nat) (w : Furthest) : Furthest := ⟨k + w.pos, w.expected⟩

/-- The same error, at another offset when it is one of a repetition. -/
def DefinitionError.shift (k : Nat) : DefinitionError → DefinitionError
  | emptyLoop pos => emptyLoop (k + pos)
  | e => e

/-- The step with every offset moved on by `k`. -/
def Step.shift (k : Nat) : Step α → Step α
  | success v next w => success v (k + next) (w.map (Furthest.shift k))
  | fail pos w => fail (k + pos) (w.shift k)
  | error e => error (e.shift k)

namespace Furthest

@[simp] theorem pos_shift (k : Nat) (w : Furthest) : (w.shift k).pos = k + w.pos := rfl

@[simp] theorem expected_shift (k : Nat) (w : Furthest) : (w.shift k).expected = w.expected := rfl

@[simp] theorem shift_zero (w : Furthest) : w.shift 0 = w := by
  rw [shift, Nat.zero_add]

theorem shift_absorb (k : Nat) (f : Furthest) (g : Option Furthest) :
    (f.absorb g).shift k = (f.shift k).absorb (g.map (shift k)) := by
  cases g with
  | none => rfl
  | some g =>
    refine ext_mem ?_ fun z => ?_
    · simp only [Option.map_some, pos_absorb, pos_shift]
      omega
    · simp only [Option.map_some, expected_shift, mem_absorb, pos_shift, Nat.add_le_add_iff_left]

theorem shift_merge (k : Nat) (f g : Option Furthest) :
    (merge f g).map (shift k) = merge (f.map (shift k)) (g.map (shift k)) := by
  cases f with
  | none => rfl
  | some f => simp [shift_absorb]

end Furthest

@[simp] theorem DefinitionError.shift_zero (e : DefinitionError) : e.shift 0 = e := by
  cases e <;> simp [shift]

namespace Step

@[simp] theorem shift_success (k : Nat) (v : α) (next : Nat) (w : Option Furthest) :
    (success v next w).shift k = success v (k + next) (w.map (Furthest.shift k)) := rfl

@[simp] theorem shift_fail (k pos : Nat) (w : Furthest) : (fail pos w : Step α).shift k = fail (k + pos) (w.shift k) :=
  rfl

@[simp] theorem shift_error (k : Nat) (e : DefinitionError) : (error e : Step α).shift k = error (e.shift k) := rfl

@[simp] theorem shift_zero (step : Step α) : step.shift 0 = step := by
  cases step with
  | success v next w => cases w <;> simp
  | fail pos w => simp
  | error e => simp

@[simp] theorem shift_map (k : Nat) (f : α → β) (step : Step α) : (step.map f).shift k = (step.shift k).map f := by
  cases step <;> rfl

@[simp] theorem shift_aggregate (k : Nat) (seen : Option Furthest) (step : Step α) :
    (step.aggregate seen).shift k = (step.shift k).aggregate (seen.map (Furthest.shift k)) := by
  cases step with
  | success v next w => simp [aggregate, Furthest.shift_merge]
  | fail pos w => simp [aggregate, Furthest.shift_absorb]
  | error e => rfl

end Step

end Descent
