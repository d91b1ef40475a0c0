import Descent.Proofs.Outcome
import Descent.Stream.Kinds

/-!
# Passing over items

`s.Passes pos items next`: between the offset `pos` and the boundary `next` stand just these items. So what is left from
`pos` on are the items, followed by what is left from `next` on. Ways of reading ahead pass over what they return
(`passes_itemAt`, `passes_hasAt`, `passes_takeAt`, `passes_between`), and two passages make one (`Passes.trans`).

From a boundary on a passage parts the stream in three: the items before it, those that it passes over, and those behind
it (`Passes.split`). In a text these are three strings (`passes_text`).
-/

namespace Descent

variable {ι : Type} [Item ι]

namespace Stream

/-- The items from `pos` on are these, and then those from the boundary `next` on. -/
structure Passes (s : Stream ι) (pos : Nat) (items : List ι) (next : Nat) : Prop where
  boundary : s.isBoundary next = true
  rest : s.rest pos = items ++ s.rest next

namespace Passes

variable {s : Stream ι} {pos mid next : Nat} {as bs : List ι}

theorem here (hpos : s.isBoundary pos = true) : s.Passes pos [] pos := ⟨hpos, rfl⟩

theorem trans (h : s.Passes pos as mid) (h' : s.Passes mid bs next) : s.Passes pos (as ++ bs) next := by
  refine ⟨h'.boundary, ?_⟩
  rw [h.rest, h'.rest, List.append_assoc]

theorem split (hpos : s.isBoundary pos = true) (h : s.Passes pos as next) :
    ∃ u w, s.items = u ++ as ++ w ∧ extent u = pos ∧ extent (u ++ as) = next := by
  obtain ⟨u, hitems, hu⟩ := split_dropTo hpos
  obtain ⟨u', hitems', hu'⟩ := split_dropTo h.boundary
  have hrest : s.items = u ++ as ++ s.rest next := by
    rw [hitems, dropTo, items_ofList, h.rest, List.append_assoc]
  have hbefore : u ++ as = u' := by
    have hsame : u ++ as ++ s.rest next = u' ++ s.rest next := by
      rw [← hrest, hitems', dropTo, items_ofList]
    exact List.append_cancel_right hsame
  refine ⟨u, s.rest next, hrest, hu, ?_⟩
  rw [hbefore, hu']

end Passes

/-! ## Reading ahead -/

theorem passes_itemAt {s : Stream ι} {pos next : Nat} {a : ι} (h : s.itemAt pos = some (a, next)) :
    s.Passes pos [a] next := by
  have hpos : s.isBoundary pos = true := by
    have hcell := (itemAt_eq_some_iff.1 h).1
    rw [← getElem?_cells] at hcell
    rw [isBoundary, hcell]
    rfl
  refine ⟨isBoundary_of_itemAt h, ?_⟩
  obtain ⟨u, w, hitems, rfl⟩ := isBoundary_iff_split.1 hpos
  obtain rfl : s = ofList (u ++ w) := by rw [← hitems, ofList_items]
  rw [← Nat.add_zero (extent u), itemAt_append] at h
  cases w with
  | nil => simp [itemAt, ofList, layoutOnto] at h
  | cons b w =>
    rw [itemAt_start] at h
    obtain ⟨rfl, rfl⟩ := Prod.mk.inj (Option.some.inj h)
    have hnext : extent u + Item.width b = extent (u ++ [b]) := by simp [extent_append]
    have hafter : (ofList (u ++ b :: w)).rest (extent (u ++ [b])) = w := by
      have happ := rest_append (u ++ [b]) w
      rwa [List.append_assoc] at happ
    show (ofList (u ++ b :: w)).rest (extent u) = [b] ++ (ofList (u ++ b :: w)).rest (extent u + Item.width b)
    rw [rest_append, hnext, hafter]
    rfl

theorem passes_hasAt [DecidableEq ι] {s : Stream ι} {items : List ι} {pos : Nat} (h : s.hasAt items pos = true) :
    s.Passes pos items (pos + extent items) := by
  induction items generalizing pos with
  | nil => exact .here h
  | cons a as ih =>
    rw [hasAt] at h
    cases hitem : s.itemAt pos with
    | none => simp [hitem] at h
    | some item =>
      obtain ⟨b, next⟩ := item
      simp only [hitem, Bool.and_eq_true, decide_eq_true_eq] at h
      obtain ⟨rfl, hrest⟩ := h
      obtain rfl := (itemAt_eq_some_iff.1 hitem).2
      rw [extent_cons, ← Nat.add_assoc]
      exact (passes_itemAt hitem).trans (ih hrest)

theorem passes_takeAt {s : Stream ι} {pos : Nat} (hpos : s.isBoundary pos = true) (count : Nat) :
    s.Passes pos (s.takeAt count pos) (pos + extent (s.takeAt count pos)) := by
  induction count generalizing pos with
  | zero => exact .here hpos
  | succ n ih =>
    rw [takeAt]
    cases hitem : s.itemAt pos with
    | none => exact .here hpos
    | some item =>
      obtain ⟨a, next⟩ := item
      obtain rfl := (itemAt_eq_some_iff.1 hitem).2
      have hitem := passes_itemAt hitem
      rw [extent_cons, ← Nat.add_assoc]
      exact hitem.trans (ih hitem.boundary)

theorem between_append_between (s : Stream ι) {start mid stop : Nat} (h : start ≤ mid) (h' : mid ≤ stop) :
    s.between start mid ++ s.between mid stop = s.between start stop := by
  rw [between, between, between, ← List.filterMap_append, ← Array.toList_append, Array.extract_append_extract,
    Nat.min_eq_left h, Nat.max_eq_right h']

theorem passes_between {s : Stream ι} {pos next : Nat} (hpos : s.isBoundary pos = true) (h : s.Ahead pos next) :
    s.Passes pos (s.between pos next) next := by
  refine ⟨h.boundary, ?_⟩
  rw [rest, rest, if_pos hpos, if_pos h.boundary, between_append_between s h.le h.le_length]

/-! ## Text -/

theorem extent_chars (cs : List Char) : extent cs = (String.ofList cs).utf8ByteSize := by
  induction cs with
  | nil => rfl
  | cons c cs ih =>
    have hcons : String.ofList (c :: cs) = String.singleton c ++ String.ofList cs := by
      rw [← String.toList_inj]
      simp
    rw [extent_cons, ih, hcons, String.utf8ByteSize_append, String.utf8ByteSize_singleton]
    rfl

theorem passes_text {text : String} {pos next : Nat} {cs : List Char}
    (hpos : (ofString text).isBoundary pos = true) (h : (ofString text).Passes pos cs next) :
    ∃ before after : String, text = before ++ String.ofList cs ++ after ∧ before.utf8ByteSize = pos ∧
      (before ++ String.ofList cs).utf8ByteSize = next := by
  obtain ⟨u, w, hitems, hu, hnext⟩ := h.split hpos
  have htext : text = String.ofList (u ++ cs ++ w) := by
    rw [← hitems, ofString, items_ofList, String.ofList_toList]
  refine ⟨String.ofList u, String.ofList w, ?_, ?_, ?_⟩
  · rw [htext, String.ofList_append, String.ofList_append]
  · rw [← extent_chars, hu]
  · rw [← String.ofList_append, ← extent_chars, hnext]

end Stream

end Descent
