import Descent.Step
import Mathlib.Order.MinMax

/-!
# Witnesses form a semilattice

Taking one witness into another keeps the larger offset, and of what was expected exactly that which was expected
there (`pos_absorb`, `mem_absorb`). So `Furthest.merge` does not care in which order or grouping the witnesses of a run
come together, or how often: it is commutative (`merge_comm`), associative (`merge_assoc`) and idempotent (`merge_self`).
-/

namespace Descent

namespace Furthest

theorem ext_mem {f g : Furthest} (hpos : f.pos = g.pos) (hmem : ∀ z, z ∈ f.expected ↔ z ∈ g.expected) : f = g := by
  obtain ⟨p, x⟩ := f
  obtain ⟨q, y⟩ := g
  obtain rfl : p = q := hpos
  obtain rfl : x = y := Keyed.ext hmem
  rfl

theorem pos_absorb (f g : Furthest) : (f.absorb (some g)).pos = max f.pos g.pos := by
  rw [absorb]
  split_ifs with hlt hgt
  · exact (max_eq_right (le_of_lt hlt)).symm
  · exact (max_eq_left (le_of_lt hgt)).symm
  · exact (max_eq_left (Nat.not_lt.1 hlt)).symm

theorem mem_absorb {f g : Furthest} {z : String} :
    z ∈ (f.absorb (some g)).expected ↔ (g.pos ≤ f.pos ∧ z ∈ f.expected) ∨ (f.pos ≤ g.pos ∧ z ∈ g.expected) := by
  rw [absorb]
  split_ifs with hlt hgt
  · simp [Nat.not_le.2 hlt, le_of_lt hlt]
  · simp [Nat.not_le.2 hgt, le_of_lt hgt]
  · simp [Nat.not_lt.1 hlt, Nat.not_lt.1 hgt]

theorem absorb_comm (f g : Furthest) : f.absorb (some g) = g.absorb (some f) := by
  refine ext_mem ?_ fun z => ?_
  · rw [pos_absorb, pos_absorb, max_comm]
  · rw [mem_absorb, mem_absorb, or_comm]

theorem absorb_assoc (f g h : Furthest) :
    (f.absorb (some g)).absorb (some h) = f.absorb (some (g.absorb (some h))) := by
  refine ext_mem ?_ fun z => ?_
  · simp only [pos_absorb, max_assoc]
  · simp only [mem_absorb, pos_absorb, max_le_iff, le_max_iff]
    have hfg := le_total f.pos g.pos
    have hgh := le_total g.pos h.pos
    have hfh := le_total f.pos h.pos
    grind

theorem absorb_self (f : Furthest) : f.absorb (some f) = f := by
  refine ext_mem ?_ fun z => ?_
  · rw [pos_absorb, max_self]
  · rw [mem_absorb, or_self, and_iff_right (le_refl f.pos)]

theorem merge_comm (f g : Option Furthest) : merge f g = merge g f := by
  cases f with
  | none => simp
  | some f =>
    cases g with
    | none => simp
    | some g => simp only [merge_some_left, absorb_comm f g]

theorem merge_assoc (f g h : Option Furthest) : merge (merge f g) h = merge f (merge g h) := by
  cases f with
  | none => simp
  | some f =>
    cases g with
    | none => simp
    | some g =>
      cases h with
      | none => simp
      | some h => simp only [merge_some_left, absorb_assoc]

theorem merge_self (f : Option Furthest) : merge f f = f := by
  cases f with
  | none => rfl
  | some f => rw [merge_some_left, absorb_self]

theorem absorb_absorb (f : Furthest) (g h : Option Furthest) : (f.absorb g).absorb h = f.absorb (merge g h) :=
  Option.some.inj (merge_assoc (some f) g h)

/-! ## The larger offset -/

theorem absorb_of_lt {f g : Furthest} (h : f.pos < g.pos) : f.absorb (some g) = g := by
  rw [absorb, if_pos h]

theorem absorb_of_gt {f : Furthest} {seen : Option Furthest} (h : ∀ g ∈ seen, g.pos < f.pos) : f.absorb seen = f := by
  cases seen with
  | none => rfl
  | some g => rw [absorb, if_neg (Nat.lt_asymm (h g rfl)), if_pos (h g rfl)]

theorem absorb_same (k : Nat) (x y : Expected) :
    (⟨k, x⟩ : Furthest).absorb (some ⟨k, y⟩) = ⟨k, Expected.union x y⟩ := by
  simp [absorb]

theorem merge_of_lt {seen : Option Furthest} {f : Furthest} (h : ∀ g ∈ seen, g.pos < f.pos) :
    merge seen (some f) = some f := by
  cases seen with
  | none => rfl
  | some g => exact congrArg some (absorb_of_lt (h g rfl))

theorem merge_lt {seen more : Option Furthest} {k : Nat} (h : ∀ f ∈ seen, f.pos < k) (h' : ∀ f ∈ more, f.pos < k) :
    ∀ f ∈ merge seen more, f.pos < k := by
  cases seen with
  | none => exact h'
  | some f =>
    cases more with
    | none => exact h
    | some g =>
      intro e he
      obtain rfl := Option.mem_some.1 he
      rw [pos_absorb]
      exact max_lt (h f rfl) (h' g rfl)

end Furthest

theorem Step.aggregate_aggregate {α : Type} (step : Step α) (w seen : Option Furthest) :
    (step.aggregate w).aggregate seen = step.aggregate (Furthest.merge seen w) := by
  rw [Furthest.merge_comm]
  cases step with
  | success v next f => exact congrArg (success v next) (Furthest.merge_assoc f w seen)
  | fail q f => exact congrArg (fail q) (Furthest.absorb_absorb f w seen)
  | error e => rfl

theorem Step.map_aggregate_none {α : Type} (outcome : Option (Step α)) : outcome.map (aggregate none) = outcome := by
  rw [show (aggregate none : Step α → Step α) = id from funext aggregate_none, Option.map_id, id]

theorem Step.map_aggregate_aggregate {α : Type} (outcome : Option (Step α)) (w seen : Option Furthest) :
    (outcome.map (aggregate w)).map (aggregate seen) = outcome.map (aggregate (Furthest.merge seen w)) := by
  rw [Option.map_map]
  congr 1
  funext step
  exact aggregate_aggregate step w seen

end Descent
