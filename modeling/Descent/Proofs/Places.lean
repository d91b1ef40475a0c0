import Descent.Proofs.Passage
import Mathlib.Data.Prod.Lex

/-!
# Lines and columns

The place of a boundary is a matter of the items before it (`lineCol_extent`): so many lines have ended, and so many
items stand behind the last of these ends. One more item moves the place on to the next line or to the next column
(`placeAfter_concat`). Either is later in lexicographic order, so that of two boundaries the farther one has the later
place (`lineCol_lt`), and positions may be put in order by their offsets as well as by their places
(`places_exact`).

An offset that has no place is behind the end of the stream or inside one of its items (`isBoundary_eq_false_iff`).
-/

namespace Descent

variable {ι : Type}

namespace Stream

/-! ## The place behind some items -/

section Places

variable (endsLine : ι → Bool)

theorem placeAfter_concat (u : List ι) (a : ι) :
    placeAfter endsLine (u ++ [a])
      = if endsLine a then ((placeAfter endsLine u).1 + 1, 0)
        else ((placeAfter endsLine u).1, (placeAfter endsLine u).2 + 1) := by
  cases hend : endsLine a with
  | true => simp [placeAfter, hend]
  | false => simp [placeAfter, hend]

theorem placeAfter_lt_concat (u : List ι) (a : ι) :
    toLex (placeAfter endsLine u) < toLex (placeAfter endsLine (u ++ [a])) := by
  rw [placeAfter_concat, Prod.Lex.toLex_lt_toLex]
  split
  · exact .inl (Nat.lt_succ_self _)
  · exact .inr ⟨rfl, Nat.lt_succ_self _⟩

theorem placeAfter_lt_append (u : List ι) {v : List ι} (hv : v ≠ []) :
    toLex (placeAfter endsLine u) < toLex (placeAfter endsLine (u ++ v)) := by
  induction v generalizing u with
  | nil => exact absurd rfl hv
  | cons a v ih =>
    have hfirst := placeAfter_lt_concat endsLine u a
    rcases eq_or_ne v [] with rfl | hrest
    · exact hfirst
    · have hlater := ih (u ++ [a]) hrest
      rw [List.append_assoc, List.singleton_append] at hlater
      exact hfirst.trans hlater

end Places

variable [Item ι] {s : Stream ι}

/-! ## Boundaries and items part a stream -/

theorem split_between {p q : Nat} (hp : s.isBoundary p = true) (hq : s.isBoundary q = true) (hle : p ≤ q) :
    ∃ u v w, s.items = u ++ v ++ w ∧ extent u = p ∧ extent (u ++ v) = q := by
  obtain ⟨u, rest, hitems, rfl⟩ := isBoundary_iff_split.1 hp
  obtain ⟨u', w, hitems', rfl⟩ := isBoundary_iff_split.1 hq
  have hu : u <+: s.items := ⟨rest, hitems.symm⟩
  have hu' : u' <+: s.items := ⟨w, hitems'.symm⟩
  rcases List.prefix_or_prefix_of_prefix hu hu' with ⟨v, rfl⟩ | ⟨v, rfl⟩
  · exact ⟨u, v, w, hitems', rfl, rfl⟩
  · rw [extent_append] at hle
    cases v with
    | nil => exact ⟨u', [], w, by simpa using hitems', by simp, by simp⟩
    | cons a v =>
      have hwidth := Item.width_pos a
      rw [extent_cons] at hle
      omega

theorem split_itemAt {pos next : Nat} {a : ι} (h : s.itemAt pos = some (a, next)) :
    ∃ u w, s.items = u ++ [a] ++ w ∧ extent u = pos ∧ extent (u ++ [a]) = next := by
  have hpos : s.isBoundary pos = true := by
    rw [isBoundary, getElem?_cells, (itemAt_eq_some_iff.1 h).1]
    rfl
  exact (passes_itemAt h).split hpos

/-! ## Offsets without a place -/

/-- Whether an offset is inside an item, behind its first offset and before the next item. -/
def Inside (s : Stream ι) (pos : Nat) : Prop :=
  ∃ start a next, s.itemAt start = some (a, next) ∧ start < pos ∧ pos < next

theorem not_isBoundary_of_inside {pos : Nat} (h : s.Inside pos) : s.isBoundary pos = false := by
  obtain ⟨start, a, next, hitem, hstart, hnext⟩ := h
  obtain ⟨u, w, hitems, rfl, rfl⟩ := split_itemAt hitem
  rw [← Bool.not_eq_true]
  intro hpos
  obtain ⟨u', w', hitems', rfl⟩ := isBoundary_iff_split.1 hpos
  -- the items before the offset are more than `u` and fewer than `u ++ [a]`
  have hu' : u' <+: s.items := ⟨w', hitems'.symm⟩
  rcases List.prefix_or_prefix_of_prefix hu' ⟨w, hitems.symm⟩ with ⟨v, hv⟩ | ⟨v, rfl⟩
  · rcases List.prefix_concat_iff.1 ⟨v, hv⟩ with rfl | ⟨v', rfl⟩
    · exact absurd hnext (Nat.lt_irrefl _)
    · rw [extent_append] at hstart
      omega
  · rw [extent_append] at hnext
    omega

theorem inside_of_not_isBoundary {pos : Nat} (h : s.isBoundary pos = false) (hle : pos ≤ s.length) : s.Inside pos := by
  obtain ⟨items, rfl⟩ : ∃ items, s = ofList items := ⟨s.items, (ofList_items s).symm⟩
  induction items generalizing pos with
  | nil =>
    obtain rfl : pos = 0 := by simpa [length_eq_extent] using hle
    rw [isBoundary_zero] at h
    cases h
  | cons a as ih =>
    rcases Nat.lt_or_ge pos (Item.width a) with hin | hbehind
    · rcases Nat.eq_zero_or_pos pos with rfl | hpos
      · rw [isBoundary_zero] at h
        cases h
      · exact ⟨0, a, Item.width a, itemAt_start a as, hpos, hin⟩
    · obtain ⟨q, rfl⟩ : ∃ q, pos = extent [a] + q := ⟨pos - Item.width a, by simp; omega⟩
      have hcons : ofList (a :: as) = ofList ([a] ++ as) := rfl
      rw [hcons, isBoundary_append] at h
      rw [hcons, length_append] at hle
      obtain ⟨start, b, next, hitem, hstart, hnext⟩ := ih h (by omega)
      refine ⟨extent [a] + start, b, extent [a] + next, ?_, by omega, by omega⟩
      rw [hcons, itemAt_append, hitem]
      rfl

theorem isBoundary_eq_false_iff {pos : Nat} : s.isBoundary pos = false ↔ s.length < pos ∨ s.Inside pos := by
  constructor
  · intro h
    rcases Nat.lt_or_ge s.length pos with hend | hle
    · exact .inl hend
    · exact .inr (inside_of_not_isBoundary h hle)
  · rintro (hend | hinside)
    · rw [← Bool.not_eq_true]
      intro hpos
      have hle := le_length_of_isBoundary hpos
      omega
    · exact not_isBoundary_of_inside hinside

/-! ## The place of a boundary -/

theorem between_extent (u w : List ι) : (ofList (u ++ w)).between 0 (extent u) = u := by
  rw [between_eq, items_ofList, layout_append, ← length_layout, List.take_left, List.drop_zero, filterMap_layout]

theorem lineCol_extent {u w : List ι} (hitems : s.items = u ++ w) :
    s.lineCol (extent u) = .ok (Item.endsLine?.map fun endsLine => placeAfter endsLine u) := by
  have hpos : s.isBoundary (extent u) = true := isBoundary_iff_split.2 ⟨u, w, hitems, rfl⟩
  obtain rfl : s = ofList (u ++ w) := ext hitems
  rw [lineCol, if_pos hpos, between_extent]

theorem lineCol_eq_error_iff {pos : Nat} :
    s.lineCol pos = .error (.outOfRange pos s.length) ↔ s.isBoundary pos = false := by
  rw [lineCol]
  split
  next hpos => simp [hpos]
  next hpos => simp [hpos]

variable {endsLine : ι → Bool}

theorem lineCol_itemAt (hlines : Item.endsLine? = some endsLine) {pos next : Nat} {a : ι}
    (h : s.itemAt pos = some (a, next)) :
    ∃ line column, s.lineCol pos = .ok (some (line, column)) ∧
      s.lineCol next = .ok (some (if endsLine a then (line + 1, 0) else (line, column + 1))) := by
  obtain ⟨u, w, hitems, rfl, rfl⟩ := split_itemAt h
  have hbefore : s.items = u ++ ([a] ++ w) := by rw [hitems, List.append_assoc]
  refine ⟨(placeAfter endsLine u).1, (placeAfter endsLine u).2, ?_, ?_⟩
  · rw [lineCol_extent hbefore, hlines]
    rfl
  · rw [lineCol_extent hitems, hlines, Option.map_some, placeAfter_concat]

theorem lineCol_lt (hlines : Item.endsLine? = some endsLine) {p q : Nat} (hp : s.isBoundary p = true)
    (hq : s.isBoundary q = true) (hlt : p < q) :
    ∃ a b, s.lineCol p = .ok (some a) ∧ s.lineCol q = .ok (some b) ∧ toLex a < toLex b := by
  obtain ⟨u, v, w, hitems, rfl, rfl⟩ := split_between hp hq (Nat.le_of_lt hlt)
  have hv : v ≠ [] := by
    rintro rfl
    simp at hlt
  have hbefore : s.items = u ++ (v ++ w) := by rw [hitems, List.append_assoc]
  refine ⟨placeAfter endsLine u, placeAfter endsLine (u ++ v), ?_, ?_, placeAfter_lt_append endsLine u hv⟩
  · rw [lineCol_extent hbefore, hlines]
    rfl
  · rw [lineCol_extent hitems, hlines]
    rfl

theorem lineCol_lt_iff (hlines : Item.endsLine? = some endsLine) {p q : Nat} {a b : Nat × Nat}
    (hp : s.lineCol p = .ok (some a)) (hq : s.lineCol q = .ok (some b)) : p < q ↔ toLex a < toLex b := by
  have boundary {k : Nat} {c : Nat × Nat} (hk : s.lineCol k = .ok (some c)) : s.isBoundary k = true := by
    rw [lineCol] at hk
    split at hk
    · assumption
    · cases hk
  have later {k l : Nat} {c e : Nat × Nat} (hk : s.lineCol k = .ok (some c)) (hl : s.lineCol l = .ok (some e))
      (hlt : k < l) : toLex c < toLex e := by
    obtain ⟨c', e', hk', hl', hplaces⟩ := lineCol_lt hlines (boundary hk) (boundary hl) hlt
    obtain rfl := Option.some.inj (Except.ok.inj (hk'.symm.trans hk))
    obtain rfl := Option.some.inj (Except.ok.inj (hl'.symm.trans hl))
    exact hplaces
  refine ⟨later hp hq, fun hplaces => ?_⟩
  rcases Nat.lt_trichotomy p q with hlt | rfl | hgt
  · exact hlt
  · obtain rfl := Option.some.inj (Except.ok.inj (hp.symm.trans hq))
    exact absurd hplaces (lt_irrefl _)
  · exact absurd hplaces (lt_asymm (later hq hp hgt))

theorem lineCol_injective (hlines : Item.endsLine? = some endsLine) {p q : Nat} {a : Nat × Nat}
    (hp : s.lineCol p = .ok (some a)) (hq : s.lineCol q = .ok (some a)) : p = q := by
  have hnot := lt_irrefl (toLex a)
  have hpq : ¬p < q := fun hlt => hnot ((lineCol_lt_iff hlines hp hq).1 hlt)
  have hqp : ¬q < p := fun hlt => hnot ((lineCol_lt_iff hlines hq hp).1 hlt)
  omega

end Stream

/-! ## The order of positions -/

theorem Position.lineColLE_some (a b : Nat × Nat) : lineColLE (some a) (some b) = true ↔ toLex a ≤ toLex b := by
  rw [lineColLE, Prod.Lex.toLex_le_toLex]
  simp

section Text

variable {s : Stream Char}

theorem Stream.exists_place {pos : Nat} (hpos : s.isBoundary pos = true) : ∃ a, s.lineCol pos = .ok (some a) := by
  rw [lineCol, if_pos hpos]
  exact ⟨_, rfl⟩

theorem Stream.position_eq_ok_iff {pos : Nat} {place : Position} :
    s.position pos = .ok place ↔ place.offset = pos ∧ s.lineCol pos = .ok place.lineCol := by
  rw [position]
  cases s.lineCol pos with
  | error e =>
    constructor
    · intro h
      cases h
    · rintro ⟨-, h⟩
      cases h
  | ok lineCol =>
    obtain ⟨offset, lineCol'⟩ := place
    simp only [Except.map, Except.ok.injEq, Position.mk.injEq, eq_comm]

theorem Stream.place_of_position {pos : Nat} {place : Position} (h : s.position pos = .ok place) :
    ∃ a, s.lineCol pos = .ok (some a) ∧ place = ⟨pos, some a⟩ := by
  obtain ⟨rfl, hplace⟩ := position_eq_ok_iff.1 h
  have hpos : s.isBoundary place.offset = true := by
    rw [← Bool.not_eq_false, ← lineCol_eq_error_iff, hplace]
    nofun
  obtain ⟨a, ha⟩ := exists_place hpos
  have hsame : place.lineCol = some a := Except.ok.inj (hplace.symm.trans ha)
  exact ⟨a, ha, by rw [← hsame]⟩

theorem Position.order_same {p q : Nat} {x y : Position} (hx : s.position p = .ok x) (hy : s.position q = .ok y) :
    (x.offset ≤ y.offset ↔ lineColLE x.lineCol y.lineCol = true) ∧ (x.le y = true ↔ x.offset ≤ y.offset) := by
  obtain ⟨a, ha, rfl⟩ := Stream.place_of_position hx
  obtain ⟨b, hb, rfl⟩ := Stream.place_of_position hy
  have horder : p ≤ q ↔ lineColLE (some a) (some b) = true := by
    rw [lineColLE_some, ← not_lt, ← not_lt, Stream.lineCol_lt_iff rfl hb ha]
  refine ⟨horder, ?_⟩
  rw [le, Bool.or_eq_true, Bool.and_eq_true, decide_eq_true_eq, beq_iff_eq, ← horder]
  dsimp only
  omega

/-- **The places of a text are exact.** An offset has none exactly if it is behind the end of the text or inside a
character. The start has the first one, and a character moves the place on, to the next line if it ends one and to the
next column if it does not. So the boundaries of the text are ordered as their places are, no two of them have one place,
and it makes no difference whether positions, which hold an offset with its place, are ordered by offset, by place, or by
the one and then the other. -/
theorem places_exact (s : Stream Char) :
    (∀ p, s.lineCol p = .error (.outOfRange p s.length) ↔ s.length < p ∨ s.Inside p) ∧
    (∀ p, s.isBoundary p = true ↔ ¬(s.length < p ∨ s.Inside p)) ∧
    s.lineCol 0 = .ok (some (0, 0)) ∧
    (∀ p c q, s.itemAt p = some (c, q) →
      ∃ line column, s.lineCol p = .ok (some (line, column)) ∧
        s.lineCol q = .ok (some (if c = '\n' then (line + 1, 0) else (line, column + 1)))) ∧
    (∀ p q, s.isBoundary p = true → s.isBoundary q = true →
      ∃ a b, s.lineCol p = .ok (some a) ∧ s.lineCol q = .ok (some b) ∧ (p < q ↔ toLex a < toLex b)) ∧
    (∀ p q place, s.lineCol p = .ok (some place) → s.lineCol q = .ok (some place) → p = q) ∧
    (∀ p x, s.position p = .ok x ↔ x.offset = p ∧ s.lineCol p = .ok x.lineCol) ∧
    ∀ p q x y, s.position p = .ok x → s.position q = .ok y →
      (x.offset ≤ y.offset ↔ Position.lineColLE x.lineCol y.lineCol = true) ∧
      (x.le y = true ↔ x.offset ≤ y.offset) := by
  refine ⟨fun p => ?_, fun p => ?_, ?_, fun p c q hitem => ?_, fun p q hp hq => ?_, fun p q place hp hq => ?_,
    fun p x => Stream.position_eq_ok_iff, fun p q x y hx hy => Position.order_same hx hy⟩
  · rw [Stream.lineCol_eq_error_iff, Stream.isBoundary_eq_false_iff]
  · rw [← Stream.isBoundary_eq_false_iff, Bool.not_eq_false]
  · exact Stream.lineCol_extent (u := []) rfl
  · obtain ⟨line, column, hbefore, hbehind⟩ := Stream.lineCol_itemAt rfl hitem
    refine ⟨line, column, hbefore, ?_⟩
    simpa only [beq_iff_eq] using hbehind
  · obtain ⟨a, ha⟩ := Stream.exists_place hp
    obtain ⟨b, hb⟩ := Stream.exists_place hq
    exact ⟨a, b, ha, hb, Stream.lineCol_lt_iff rfl ha hb⟩
  · exact Stream.lineCol_injective rfl hp hq

end Text

/-- The offset 1 is inside the first character, and a new line begins behind the second one, so that the last one stands
at its first column. -/
theorem places_exact_accents :
    (Stream.ofString "é\nü").Inside 1 ∧
    (Stream.ofString "é\nü").lineCol 1 = .error (.outOfRange 1 5) ∧
    (∃ line column, (Stream.ofString "é\nü").lineCol 2 = .ok (some (line, column)) ∧
      (Stream.ofString "é\nü").lineCol 3 = .ok (some (line + 1, 0))) ∧
    (∃ a b, (Stream.ofString "é\nü").lineCol 2 = .ok (some a) ∧ (Stream.ofString "é\nü").lineCol 3 = .ok (some b) ∧
      toLex a < toLex b) ∧
    (Stream.ofString "é\nü").position 3 = .ok ⟨3, some (1, 0)⟩ := by
  obtain ⟨hnone, -, -, hitem, hboundaries, -, hposition, -⟩ := places_exact (.ofString "é\nü")
  have hinside : (Stream.ofString "é\nü").Inside 1 := ⟨0, 'é', 2, by decide, by decide, by decide⟩
  obtain ⟨a, b, ha, hb, horder⟩ := hboundaries 2 3 (by decide) (by decide)
  exact ⟨hinside, (hnone 1).2 (.inr hinside), hitem 2 '\n' 3 (by decide), ⟨a, b, ha, hb, horder.1 (by decide)⟩,
    (hposition 3 _).2 ⟨rfl, by decide⟩⟩

end Descent
