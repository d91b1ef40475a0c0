import Descent.Leaf
import Descent.Stream.Boundary
import Mathlib.Tactic.SplitIfs

/-!
# Streams in two parts

A stream of the items `u ++ w` has at an offset behind `u` what the stream of `w` has at that offset less the extent of
`u`: `itemAt_append`, `isBoundary_append`, `between_append`, and so every way of reading on from an offset.

The boundaries of a stream are the offsets at which its items can be parted so (`isBoundary_iff_split`), and what is
left from a boundary on is the second part (`rest_append`, `split_dropTo`).
-/

namespace Descent

variable {ι : Type} [Item ι]

/-! ## Layout and extent -/

theorem layout_append (u w : List ι) : layout (u ++ w) = layout u ++ layout w := by
  induction u with
  | nil => rfl
  | cons a u ih => simp [layout, ih]

namespace Stream

@[simp] theorem extent_nil : extent ([] : List ι) = 0 := rfl

@[simp] theorem extent_cons (a : ι) (as : List ι) : extent (a :: as) = Item.width a + extent as := rfl

theorem length_layout (as : List ι) : (layout as).length = extent as := by
  induction as with
  | nil => rfl
  | cons a as ih =>
    have hw := Item.width_pos a
    simp only [layout, List.length_cons, List.length_append, List.length_replicate, ih, extent_cons]
    omega

theorem extent_append (u w : List ι) : extent (u ++ w) = extent u + extent w := by
  simp only [← length_layout, layout_append, List.length_append]

theorem length_eq_extent (s : Stream ι) : s.length = extent s.items := by
  rw [← length_layout, ← s.cells_eq, Array.length_toList, length]

theorem getElem?_cells (s : Stream ι) (pos : Nat) : s.cells[pos]? = (layout s.items)[pos]? := by
  rw [← s.cells_eq, Array.getElem?_toList]

@[simp] theorem length_append (u w : List ι) : (ofList (u ++ w)).length = extent u + (ofList w).length := by
  simp only [length_eq_extent, items_ofList, extent_append]

theorem cells_append (u w : List ι) (pos : Nat) :
    (ofList (u ++ w)).cells[extent u + pos]? = (ofList w).cells[pos]? := by
  simp only [getElem?_cells, items_ofList, layout_append]
  rw [← length_layout u, List.getElem?_append_right (Nat.le_add_right _ _), Nat.add_sub_cancel_left]

/-! ## Reading in the second part -/

theorem isBoundary_append (u w : List ι) (pos : Nat) :
    (ofList (u ++ w)).isBoundary (extent u + pos) = (ofList w).isBoundary pos := by
  rw [isBoundary, isBoundary, cells_append, length_append]
  cases (ofList w).cells[pos]? with
  | some cell => rfl
  | none => exact Bool.eq_iff_iff.2 (by simp)

theorem itemAt_append (u w : List ι) (pos : Nat) :
    (ofList (u ++ w)).itemAt (extent u + pos)
      = ((ofList w).itemAt pos).map fun item => (item.1, extent u + item.2) := by
  rw [itemAt, itemAt, cells_append]
  cases (ofList w).cells[pos]? with
  | none => rfl
  | some cell =>
    cases cell with
    | none => rfl
    | some a => simp [Nat.add_assoc]

theorem between_eq (s : Stream ι) (start stop : Nat) :
    s.between start stop = (((layout s.items).take stop).drop start).filterMap id := by
  rw [between, Array.toList_extract, s.cells_eq, List.extract_eq_drop_take']

theorem between_append (u w : List ι) (start stop : Nat) :
    (ofList (u ++ w)).between (extent u + start) (extent u + stop) = (ofList w).between start stop := by
  simp only [between_eq, items_ofList, layout_append, ← length_layout u, List.take_length_add_append,
    List.drop_length_add_append]

theorem rest_append_add (u w : List ι) (pos : Nat) :
    (ofList (u ++ w)).rest (extent u + pos) = (ofList w).rest pos := by
  rw [rest, rest, isBoundary_append, length_append, between_append]

theorem itemAt_start (a : ι) (w : List ι) : (ofList (a :: w)).itemAt 0 = some (a, Item.width a) :=
  itemAt_eq_some_iff.2 ⟨rfl, (Nat.zero_add _).symm⟩

section Leaves

variable [DecidableEq ι]

theorem hasAt_append (u w items : List ι) (pos : Nat) :
    (ofList (u ++ w)).hasAt items (extent u + pos) = (ofList w).hasAt items pos := by
  induction items generalizing pos with
  | nil => exact isBoundary_append u w pos
  | cons a as ih =>
    rw [hasAt, hasAt, itemAt_append]
    cases (ofList w).itemAt pos with
    | none => rfl
    | some item => simp only [Option.map_some, ih]

theorem hasAt_start (c : ι) (w : List ι) : (ofList w).hasAt [c] 0 = true ↔ w.head? = some c := by
  cases w with
  | nil => simp [hasAt, itemAt, ofList, layoutOnto]
  | cons a w =>
    have hnext := isBoundary_of_itemAt (itemAt_start a w)
    simp [hasAt, itemAt_start, hnext, eq_comm]

end Leaves

theorem takeAt_append (u w : List ι) (count pos : Nat) :
    (ofList (u ++ w)).takeAt count (extent u + pos) = (ofList w).takeAt count pos := by
  induction count generalizing pos with
  | zero => rfl
  | succ n ih =>
    rw [takeAt, takeAt, itemAt_append]
    cases (ofList w).itemAt pos with
    | none => rfl
    | some item => simp only [Option.map_some, ih]

theorem spanEnd_append (u w : List ι) (accepts : ι → Bool) (count pos : Nat) :
    (ofList (u ++ w)).spanEnd accepts count (extent u + pos)
      = extent u + (ofList w).spanEnd accepts count pos := by
  induction count generalizing pos with
  | zero => rfl
  | succ n ih =>
    rw [spanEnd, spanEnd, itemAt_append]
    cases (ofList w).itemAt pos with
    | none => rfl
    | some item =>
      simp only [Option.map_some]
      split_ifs
      · exact ih item.2
      · rfl

theorem spanEnd_add (s : Stream ι) (accepts : ι → Bool) (count more pos : Nat) (hleft : s.length ≤ pos + count) :
    s.spanEnd accepts (count + more) pos = s.spanEnd accepts count pos := by
  induction count generalizing pos with
  | zero =>
    have hnone : s.itemAt pos = none := by
      rw [itemAt, Array.getElem?_eq_none (by simpa [length] using hleft)]
    cases more with
    | zero => rfl
    | succ n => simp [spanEnd, hnone]
  | succ n ih =>
    rw [Nat.add_right_comm, spanEnd, spanEnd]
    cases hitem : s.itemAt pos with
    | none => rfl
    | some item =>
      have hlt : pos < item.2 := lt_of_itemAt hitem
      simp only
      rw [ih item.2 (by omega)]

/-! ## Boundaries part a stream -/

theorem le_length_of_isBoundary {s : Stream ι} {pos : Nat} (h : s.isBoundary pos = true) : pos ≤ s.length := by
  rw [isBoundary] at h
  split at h
  next cell hcell =>
    rw [length]
    have := (Array.getElem?_eq_some_iff.1 hcell).1
    omega
  next => exact Nat.le_of_eq (by simpa using h)

theorem isBoundary_zero (s : Stream ι) : s.isBoundary 0 = true := by
  rw [isBoundary, getElem?_cells]
  cases hs : s.items with
  | nil => simp [layout, length_eq_extent, hs]
  | cons a as => simp [layout]

theorem isBoundary_iff_split {s : Stream ι} {pos : Nat} :
    s.isBoundary pos = true ↔ ∃ u w, s.items = u ++ w ∧ extent u = pos := by
  constructor
  · intro h
    obtain ⟨items, rfl⟩ : ∃ items, s = ofList items := ⟨s.items, (ofList_items s).symm⟩
    rw [items_ofList]
    induction items generalizing pos with
    | nil =>
      have hle := le_length_of_isBoundary h
      simp only [length_eq_extent, items_ofList, extent_nil] at hle
      exact ⟨[], [], rfl, by simp; omega⟩
    | cons a as ih =>
      by_cases hzero : pos = 0
      · exact ⟨[], a :: as, rfl, hzero.symm⟩
      · by_cases hin : pos < Item.width a
        · -- inside the first item there is no boundary
          obtain ⟨n, rfl⟩ : ∃ n, pos = n + 1 := ⟨pos - 1, by omega⟩
          rw [isBoundary, getElem?_cells, items_ofList, layout, List.getElem?_cons_succ,
            List.getElem?_append_left (by simp; omega)] at h
          simp [show n < Item.width a - 1 by omega] at h
        · obtain ⟨q, rfl⟩ : ∃ q, pos = extent [a] + q := ⟨pos - Item.width a, by simp; omega⟩
          rw [show a :: as = [a] ++ as from rfl, isBoundary_append] at h
          obtain ⟨u, w, hitems, hextent⟩ := ih h
          exact ⟨a :: u, w, by rw [hitems, List.cons_append], by simp [hextent]⟩
  · rintro ⟨u, w, hitems, rfl⟩
    rw [← ofList_items s, hitems, ← Nat.add_zero (extent u), isBoundary_append]
    exact isBoundary_zero _

theorem isBoundary_iff_le (hwidth : ∀ a : ι, Item.width a = 1) {s : Stream ι} {pos : Nat} :
    s.isBoundary pos = true ↔ pos ≤ s.length := by
  have hextent (as : List ι) : extent as = as.length := by
    induction as with
    | nil => rfl
    | cons a as ih => rw [extent_cons, hwidth, ih, List.length_cons, Nat.add_comm]
  refine ⟨le_length_of_isBoundary, fun hle => ?_⟩
  rw [length_eq_extent, hextent] at hle
  refine isBoundary_iff_split.2 ⟨s.items.take pos, s.items.drop pos, (List.take_append_drop pos s.items).symm, ?_⟩
  rw [hextent, List.length_take, Nat.min_eq_left hle]

theorem filterMap_layout (items : List ι) : (layout items).filterMap id = items := by
  induction items with
  | nil => rfl
  | cons a as ih =>
    have hinside : (List.replicate (Item.width a - 1) none).filterMap (id : Option ι → Option ι) = [] :=
      List.filterMap_replicate_of_none rfl
    rw [layout, List.filterMap_cons_some (f := id) rfl, List.filterMap_append, hinside, ih, List.nil_append]

theorem rest_zero (s : Stream ι) : s.rest 0 = s.items := by
  rw [rest, if_pos (isBoundary_zero s), between_eq, List.drop_zero, length_eq_extent, ← length_layout, List.take_length,
    filterMap_layout]

theorem rest_append (u w : List ι) : (ofList (u ++ w)).rest (extent u) = w := by
  rw [← Nat.add_zero (extent u), rest_append_add, rest_zero, items_ofList]

theorem split_dropTo {s : Stream ι} {pos : Nat} (h : s.isBoundary pos = true) :
    ∃ u, s.items = u ++ (s.dropTo pos).items ∧ extent u = pos := by
  obtain ⟨u, w, hitems, rfl⟩ := isBoundary_iff_split.1 h
  refine ⟨u, ?_, rfl⟩
  rw [dropTo, items_ofList, ← ofList_items s, hitems, rest_append, items_ofList]

end Stream

end Descent
