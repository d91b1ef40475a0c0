import Descent.Keyed

/-!
# Maps by name

* `NameMap α`: values under names, in increasing order of the names
* `NameMap.get?`, `NameMap.ofEntries`: the value of a name; of several entries with one name the last one counts
-/

namespace Descent

/-- Values under names. -/
abbrev NameMap (α : Type) : Type := Keyed (String × α) Prod.fst

namespace NameMap

variable {α : Type}

def get? (m : NameMap α) (name : String) : Option α := (m.find? name).map (·.2)

theorem get?_eq_some_iff {m : NameMap α} {name : String} {v : α} : get? m name = some v ↔ (name, v) ∈ m := by
  unfold get?
  constructor
  · intro h
    obtain ⟨e, he, rfl⟩ := Option.map_eq_some_iff.1 h
    obtain ⟨hm, rfl⟩ := Keyed.find?_eq_some_iff.1 he
    exact hm
  · intro h
    rw [Keyed.find?_eq_some_iff.2 ⟨h, rfl⟩]
    rfl

theorem ext {m n : NameMap α} (h : ∀ name, get? m name = get? n name) : m = n :=
  Keyed.ext fun e => by rw [← get?_eq_some_iff, ← get?_eq_some_iff, h]

def ofEntries (es : List (String × α)) : NameMap α := Keyed.ofList es

end NameMap

end Descent
