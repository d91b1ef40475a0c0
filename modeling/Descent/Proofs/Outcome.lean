import Descent.Proofs.Fragment
import Descent.Proofs.Split

/-!
# What leaves do

A leaf that the library offers does one of three things (`Leaf.outcome_step`): it succeeds without a witness and, from a
boundary, ends at a boundary no earlier (`Stream.Ahead`); it fails where it stands, expecting one thing; or the stream
has no lines, or the offset none of its own.
-/

namespace Descent

variable {ι : Type} [Item ι] {α : Type}

namespace Stream

/-- A boundary of the stream that is no earlier than `pos`. -/
structure Ahead (s : Stream ι) (pos next : Nat) : Prop where
  le : pos ≤ next
  le_length : next ≤ s.length
  boundary : s.isBoundary next = true

namespace Ahead

variable {s : Stream ι} {pos next q : Nat}

theorem of_boundary (hle : pos ≤ next) (hnext : s.isBoundary next = true) : s.Ahead pos next :=
  ⟨hle, le_length_of_isBoundary hnext, hnext⟩

theorem here (hpos : s.isBoundary pos = true) : s.Ahead pos pos := of_boundary (Nat.le_refl _) hpos

theorem trans (h : s.Ahead pos next) (h' : s.Ahead next q) : s.Ahead pos q :=
  ⟨Nat.le_trans h.le h'.le, h'.le_length, h'.boundary⟩

end Ahead

/-! ## Reading ahead -/

theorem ahead_itemAt {s : Stream ι} {pos next : Nat} {a : ι} (h : s.itemAt pos = some (a, next)) : s.Ahead pos next :=
  .of_boundary (Nat.le_of_lt (lt_of_itemAt h)) (isBoundary_of_itemAt h)

theorem ahead_hasAt [DecidableEq ι] {s : Stream ι} {items : List ι} {pos : Nat} (h : s.hasAt items pos = true) :
    s.Ahead pos (pos + extent items) := by
  induction items generalizing pos with
  | nil => exact .here h
  | cons a as ih =>
    rw [hasAt] at h
    cases hitem : s.itemAt pos with
    | none => simp [hitem] at h
    | some item =>
      obtain ⟨b, next⟩ := item
      simp only [hitem, Bool.and_eq_true, decide_eq_true_eq] at h
      obtain ⟨rfl, hrest⟩ := h
      obtain rfl := (itemAt_eq_some_iff.1 hitem).2
      rw [extent_cons, ← Nat.add_assoc]
      exact (ahead_itemAt hitem).trans (ih hrest)

theorem ahead_takeAt {s : Stream ι} {pos : Nat} (hpos : s.isBoundary pos = true) (count : Nat) :
    s.Ahead pos (pos + extent (s.takeAt count pos)) := by
  induction count generalizing pos with
  | zero => exact .here hpos
  | succ n ih =>
    rw [takeAt]
    cases hitem : s.itemAt pos with
    | none => exact .here hpos
    | some item =>
      obtain ⟨a, next⟩ := item
      obtain rfl := (itemAt_eq_some_iff.1 hitem).2
      have hitem := ahead_itemAt hitem
      rw [extent_cons, ← Nat.add_assoc]
      exact hitem.trans (ih hitem.boundary)

theorem ahead_spanEnd {s : Stream ι} {pos : Nat} (hpos : s.isBoundary pos = true) (accepts : ι → Bool)
    (count : Nat) : s.Ahead pos (s.spanEnd accepts count pos) := by
  induction count generalizing pos with
  | zero => exact .here hpos
  | succ n ih =>
    rw [spanEnd]
    cases hitem : s.itemAt pos with
    | none => exact .here hpos
    | some item =>
      have hitem := ahead_itemAt (show s.itemAt pos = some (item.1, item.2) from hitem)
      simp only
      split_ifs
      · exact hitem.trans (ih hitem.boundary)
      · exact .here hpos

theorem position_eq_ok {s : Stream ι} {pos : Nat} (hpos : s.isBoundary pos = true) :
    ∃ p, s.position pos = .ok p := by
  rw [position, lineCol, if_pos hpos]
  exact ⟨_, rfl⟩

theorem offset_of_position {s : Stream ι} {pos : Nat} {p : Position} (h : s.position pos = .ok p) : p.offset = pos := by
  rw [Stream.position] at h
  cases hplace : s.lineCol pos with
  | error e =>
    rw [hplace] at h
    cases h
  | ok place =>
    rw [hplace] at h
    cases h
    rfl

theorem error_of_position {s : Stream ι} {pos : Nat} {e : DefinitionError} (h : s.position pos = .error e) :
    s.isBoundary pos = false ∧ e = .outOfRange pos s.length := by
  rw [position, lineCol] at h
  split_ifs at h with hpos
  · cases h
  · exact ⟨by simpa using hpos, (Except.error.inj h).symm⟩

end Stream

/-! ## Outcomes -/

/-- What may come of a leaf at an offset. -/
inductive Leaf.Outcome (s : Stream ι) (pos : Nat) : Step α → Prop
  | done (v : α) (next : Nat) (hnext : s.isBoundary pos = true → s.Ahead pos next) : Outcome s pos (.done v next)
  | failed (d : String) : Outcome s pos (.failed pos d)
  | error (e : DefinitionError) (he : s.isBoundary pos = true → e = .noLineInfo) : Outcome s pos (.error e)

theorem Leaf.outcome_step [DecidableEq ι] {l : Leaf ι α} (hl : l.IsOffered) (s : Stream ι) (pos : Nat) :
    Outcome s pos (l.step s pos) := by
  cases l with
  | succeed v => exact .done v pos .here
  | fail d => exact .failed d
  | eof =>
    rw [Leaf.step]
    split_ifs
    · exact .done () pos .here
    · exact .failed "EOF"
  | index => exact .done pos pos .here
  | position =>
    rw [Leaf.step]
    cases hposition : s.position pos with
    | ok p => exact .done p pos .here
    | error e =>
      refine .error e fun hpos => ?_
      obtain ⟨p, hp⟩ := Stream.position_eq_ok hpos
      cases hp.symm.trans hposition
  | lineInfo =>
    rw [Leaf.step, Stream.lineCol]
    split_ifs with hpos
    · cases (Item.endsLine? : Option (ι → Bool)) with
      | none => exact .error .noLineInfo fun _ => rfl
      | some endsLine => exact .done _ pos .here
    · exact .error _ fun h => absurd h hpos
  | satisfies accepts d =>
    rw [Leaf.step]
    cases hitem : s.itemAt pos with
    | none => exact .failed d
    | some item =>
      simp only
      split_ifs
      · exact .done item.1 item.2 fun _ => Stream.ahead_itemAt hitem
      · exact .failed d
  | literal items d =>
    rw [Leaf.step]
    split_ifs with h
    · exact .done items _ fun _ => Stream.ahead_hasAt h
    · exact .failed d
  | upTo count accepts d =>
    rw [Leaf.step]
    split_ifs
    · exact .done _ _ fun hpos => Stream.ahead_takeAt hpos count
    · exact .failed d
  | exactly count accepts d =>
    rw [Leaf.step]
    split_ifs
    · exact .done _ _ fun hpos => Stream.ahead_takeAt hpos count
    · exact .failed d
  | span accepts d =>
    rw [Leaf.step]
    split_ifs
    · exact .failed d
    · exact .done _ _ fun hpos => Stream.ahead_spanEnd hpos accepts s.length
  | pattern matcher groups =>
    rw [Leaf.step]
    cases hfind : matcher.find s pos with
    | none => exact .failed matcher.source
    | some r => exact .done _ r.stop fun _ => .of_boundary (matcher.find_stop hfind).1 (matcher.find_stop hfind).2
  | handWritten step => exact hl.elim

end Descent
