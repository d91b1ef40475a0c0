import Descent.Keyed
import Descent.Text.Quoted

/-!
# Sets of expectations

* `Expected`: a finite set of descriptions, in increasing order; sets with the same members are equal
* `Expected.union` and its members (`Expected.mem_union`)
* `Expected.phrase`: what an error message says was expected
-/

namespace Descent

/-- Descriptions of what could have come next. -/
abbrev Expected : Type := Keyed String id

namespace Expected

theorem mem_insert {s : Expected} {x z : String} : z ∈ s.insert x ↔ z = x ∨ z ∈ s := by
  rw [Keyed.mem_insert]
  by_cases h : z = x <;> simp [h]

def union (s t : Expected) : Expected := t.toList.foldl Keyed.insert s

theorem mem_foldl_insert {s : Expected} {xs : List String} {z : String} :
    z ∈ xs.foldl Keyed.insert s ↔ z ∈ s ∨ z ∈ xs := by
  induction xs generalizing s with
  | nil => simp
  | cons x xs ih => simp [ih, mem_insert, or_assoc, or_left_comm]

@[simp] theorem mem_union {s t : Expected} {z : String} : z ∈ union s t ↔ z ∈ s ∨ z ∈ t := mem_foldl_insert

theorem mem_ofList {xs : List String} {z : String} : z ∈ (Keyed.ofList xs : Expected) ↔ z ∈ xs := by
  simp [Keyed.ofList, mem_foldl_insert]

/-! ## Written forms -/

def phrase (s : Expected) : String :=
  match s.toList.map fun x => "'" ++ x ++ "'" with
  | [] => "nothing"
  | [x] => x
  | named => "one of " ++ ", ".intercalate named

/-- The set as a set of quoted strings. -/
def quoted (s : Expected) : String := Text.quotedSet s.toList

end Expected

end Descent
