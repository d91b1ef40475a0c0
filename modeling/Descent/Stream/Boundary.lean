import Descent.Stream

/-!
# Boundaries

* `Stream.isBoundary_of_itemAt`: the offset after an item is a boundary
* `Stream.lt_of_itemAt`: an item moves the offset on
-/

namespace Descent

variable {ι : Type} [Item ι]

/-- A cell with an item is followed, as many cells later as the item is wide, by another one or by the end. -/
theorem layout_next {items : List ι} {pos : Nat} {a : ι} (h : (layout items)[pos]? = some (some a)) :
    (∃ b, (layout items)[pos + Item.width a]? = some (some b)) ∨ pos + Item.width a = (layout items).length := by
  induction items generalizing pos with
  | nil => simp [layout] at h
  | cons b bs ih =>
    have hw := Item.width_pos b
    rw [layout] at h ⊢
    cases pos with
    | zero =>
      obtain rfl : b = a := by simpa using h
      rw [Nat.zero_add, show Item.width b = (Item.width b - 1) + 1 from by omega, List.getElem?_cons_succ,
        List.getElem?_append_right (by simp)]
      cases bs with
      | nil => right; simp [layout]
      | cons c cs => left; exact ⟨c, by simp [layout]⟩
    | succ n =>
      rw [List.getElem?_cons_succ] at h
      by_cases hn : n < Item.width b - 1
      · rw [List.getElem?_append_left (by simpa using hn)] at h
        simp [hn] at h
      · rw [List.getElem?_append_right (by simp; omega), List.length_replicate] at h
        rw [show n + 1 + Item.width a = (n + Item.width a) + 1 from by omega, List.getElem?_cons_succ,
          List.getElem?_append_right (by simp; omega), List.length_replicate,
          show n + Item.width a - (Item.width b - 1) = n - (Item.width b - 1) + Item.width a from by omega]
        refine (ih h).imp_right fun e => ?_
        simp only [List.length_cons, List.length_append, List.length_replicate]
        omega

namespace Stream

theorem itemAt_eq_some_iff {s : Stream ι} {pos next : Nat} {a : ι} :
    s.itemAt pos = some (a, next) ↔ (layout s.items)[pos]? = some (some a) ∧ next = pos + Item.width a := by
  rw [itemAt, ← s.cells_eq, Array.getElem?_toList]
  cases h : s.cells[pos]? with
  | none => simp
  | some cell =>
    cases cell with
    | none => simp
    | some b =>
      simp only [Option.some.injEq, Prod.mk.injEq]
      constructor
      · rintro ⟨rfl, rfl⟩
        exact ⟨rfl, rfl⟩
      · rintro ⟨rfl, rfl⟩
        exact ⟨rfl, rfl⟩

theorem lt_of_itemAt {s : Stream ι} {pos next : Nat} {a : ι} (h : s.itemAt pos = some (a, next)) : pos < next := by
  have := Item.width_pos a
  have := (itemAt_eq_some_iff.1 h).2
  omega

theorem isBoundary_of_itemAt {s : Stream ι} {pos next : Nat} {a : ι} (h : s.itemAt pos = some (a, next)) :
    s.isBoundary next = true := by
  obtain ⟨hc, rfl⟩ := itemAt_eq_some_iff.1 h
  rw [isBoundary, length, ← Array.getElem?_toList, s.cells_eq]
  rcases layout_next hc with ⟨b, hb⟩ | he
  · simp [hb]
  · rw [List.getElem?_eq_none (by omega), ← Array.length_toList, s.cells_eq]
    simpa using he

end Stream

end Descent
