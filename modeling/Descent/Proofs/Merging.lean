import Descent.Proofs.Heeded
import Mathlib.Data.List.ReduceOption

/-!
# Merging witnesses

Witnesses may come together in any order and two at a time in any grouping (`Merging`); what they come to is settled by
what there is to merge (`Merging.isFurthest_result`): nothing, if all of them are missing, and otherwise the largest
offset with all that is expected there and no more. In particular it is the same as if they were taken in one after the
other (`merging_joins_witnesses`).

A witness has nothing to add to another one exactly if that one covers it (`Furthest.merge_eq_right_iff`). So merging is
the join of the order by covering.
-/

namespace Descent

/-! ## Covering is the order of the join -/

namespace Furthest

theorem absorb_eq_right_iff {f g : Furthest} : f.absorb (some g) = g ↔ g.Covers f := by
  constructor
  · intro h
    refine ⟨?_, fun hpos z hz => ?_⟩
    · rw [← h, pos_absorb]
      exact le_max_left _ _
    · rw [← h]
      exact mem_absorb.2 (.inl ⟨le_of_eq hpos.symm, hz⟩)
  · rintro ⟨hle, hmem⟩
    refine ext_mem ?_ fun z => ?_
    · rw [pos_absorb, max_eq_right hle]
    · rw [mem_absorb]
      constructor
      · rintro (⟨hge, hz⟩ | ⟨-, hz⟩)
        · exact hmem (Nat.le_antisymm hle hge) z hz
        · exact hz
      · exact fun hz => .inr ⟨hle, hz⟩

theorem merge_eq_right_iff {f g : Option Furthest} : merge f g = g ↔ ∀ x ∈ f, ∃ y ∈ g, y.Covers x := by
  cases f with
  | none => simp
  | some x =>
    cases g with
    | none => simp
    | some y => simp [absorb_eq_right_iff]

end Furthest

/-! ## Every way of merging -/

/-- A way of merging witnesses, two at a time. -/
inductive Merging where
  | nothing
  | one (w : Option Furthest)
  | both (left right : Merging)

namespace Merging

def witnesses : Merging → List (Option Furthest)
  | nothing => []
  | one w => [w]
  | both left right => left.witnesses ++ right.witnesses

def result : Merging → Option Furthest
  | nothing => none
  | one w => w
  | both left right => Furthest.merge left.result right.result

theorem isFurthest_result (m : Merging) : IsFurthest m.witnesses.reduceOption m.result := by
  induction m with
  | nothing => rfl
  | one w =>
    rw [witnesses, List.reduceOption_singleton]
    exact .toList w
  | both left right hleft hright =>
    rw [witnesses, List.reduceOption_append]
    exact hleft.append hright

end Merging

theorem isFurthest_foldl_merge {record : List Furthest} {seen : Option Furthest} (hseen : IsFurthest record seen)
    (ws : List (Option Furthest)) : IsFurthest (record ++ ws.reduceOption) (ws.foldl Furthest.merge seen) := by
  induction ws generalizing record seen with
  | nil => simpa using hseen
  | cons w ws ih =>
    have hmerged := ih (hseen.append (.toList w))
    have hcons : (w :: ws).reduceOption = w.toList ++ ws.reduceOption := by
      rw [← List.reduceOption_singleton, ← List.reduceOption_append, List.singleton_append]
    rw [hcons, ← List.append_assoc]
    exact hmerged

theorem IsFurthest.eq_none_iff {record : List Furthest} {found : Option Furthest} (h : IsFurthest record found) :
    found = none ↔ record = [] := by
  constructor
  · rintro rfl
    exact h
  · rintro rfl
    exact h.unique rfl

section Join

open Furthest

/-- **Merging witnesses is a join.** It is associative, commutative and idempotent, a missing witness adds nothing, and it
agrees with taking one witness into another on either side; the order of this join is that of covering. Some witnesses
come to the same in every order and grouping: to nothing exactly if all of them are missing, and otherwise to the largest
offset with just what is expected there. Adding two of them to a step one after the other is adding what they come to. -/
theorem merging_joins_witnesses :
    (∀ f g h : Option Furthest, merge (merge f g) h = merge f (merge g h)) ∧
    (∀ f g : Option Furthest, merge f g = merge g f) ∧
    (∀ f : Option Furthest, merge f f = f) ∧
    (∀ f : Option Furthest, merge none f = f ∧ merge f none = f) ∧
    (∀ (f : Furthest) (g : Option Furthest),
      merge (some f) g = some (f.absorb g) ∧ merge g (some f) = some (f.absorb g)) ∧
    (∀ f g : Option Furthest, merge f g = g ↔ ∀ x ∈ f, ∃ y ∈ g, y.Covers x) ∧
    (∀ (ws : List (Option Furthest)) (m : Merging), m.witnesses.Perm ws →
      m.result = ws.foldl merge none ∧
      (m.result = none ↔ ∀ w ∈ ws, w = none) ∧
      IsFurthest ws.reduceOption m.result) ∧
    ∀ {α : Type} (step : Step α) (w seen : Option Furthest),
      (step.aggregate w).aggregate seen = step.aggregate (merge w seen) := by
  refine ⟨merge_assoc, merge_comm, merge_self, fun f => ⟨rfl, merge_none_right f⟩,
    fun f g => ⟨rfl, merge_comm g (some f)⟩, fun f g => merge_eq_right_iff, fun ws m hperm => ?_,
    fun step w seen => ?_⟩
  · -- what a record comes to is a matter of its members, and so of those of the list
    have hmembers (f : Furthest) : f ∈ m.witnesses.reduceOption ↔ f ∈ ws.reduceOption := by
      rw [List.reduceOption_mem_iff, List.reduceOption_mem_iff, hperm.mem_iff]
    have hresult : IsFurthest ws.reduceOption m.result := m.isFurthest_result.congr hmembers
    have hfold : IsFurthest ws.reduceOption (ws.foldl merge none) := isFurthest_foldl_merge (.toList none) ws
    exact ⟨hresult.unique hfold, hresult.eq_none_iff.trans List.filterMap_eq_nil_iff, hresult⟩
  · rw [Step.aggregate_aggregate, merge_comm]

end Join

def scattered : List (Option Furthest) := [some (.of 1 "a"), none, some (.of 3 "b"), some (.of 1 "c"), some (.of 3 "d")]

/-- The tie at the offset 1 is united first. -/
def Merging.tiesFirst : Merging :=
  both (both (one (some (.of 1 "a"))) (one (some (.of 1 "c"))))
    (both (one (some (.of 3 "d"))) (both (one none) (one (some (.of 3 "b")))))

/-- The tie that is united at first leaves nothing behind. -/
theorem merging_joins_witnesses_ties :
    Merging.tiesFirst.witnesses.Perm scattered ∧
    Merging.tiesFirst.result = scattered.foldl Furthest.merge none ∧
    IsFurthest scattered.reduceOption (some ⟨3, (Keyed.single "b").insert "d"⟩) := by
  have hperm : Merging.tiesFirst.witnesses.Perm scattered := by decide
  obtain ⟨-, -, -, -, -, -, hall, -⟩ := merging_joins_witnesses
  obtain ⟨hfold, -, hfurthest⟩ := hall scattered .tiesFirst hperm
  exact ⟨hperm, hfold, hfurthest⟩

end Descent
