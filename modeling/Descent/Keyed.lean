/-!
# Collections in the order of their keys

* `Keyed τ key`: members with different keys, kept in increasing order of the keys, so that collections with the
  same members are equal (`Keyed.ext`)
* `Keyed.insert`, `Keyed.filter` and their members (`mem_insert`, `mem_filter`)
* `Keyed.find?`: the member with a key (`find?_eq_some_iff`)
-/

namespace Descent

/-- Members with different keys, in increasing order of the keys. -/
structure Keyed (τ : Type) (key : τ → String) where
  toList : List τ
  increasing : toList.Pairwise fun x y => key x < key y

namespace Keyed

variable {τ : Type} {key : τ → String}

instance : Membership τ (Keyed τ key) := ⟨fun s x => x ∈ s.toList⟩

theorem mem_toList {s : Keyed τ key} {x : τ} : x ∈ s.toList ↔ x ∈ s := Iff.rfl

instance [DecidableEq τ] (x : τ) (s : Keyed τ key) : Decidable (x ∈ s) := inferInstanceAs (Decidable (x ∈ s.toList))

instance [DecidableEq τ] : DecidableEq (Keyed τ key) := fun ⟨xs, _⟩ ⟨ys, _⟩ =>
  decidable_of_iff (xs = ys) (by simp)

instance [Repr τ] : Repr (Keyed τ key) := ⟨fun s => reprPrec s.toList⟩

def empty : Keyed τ key := ⟨[], .nil⟩

instance : Inhabited (Keyed τ key) := ⟨empty⟩

@[simp] theorem not_mem_empty (x : τ) : x ∉ (empty : Keyed τ key) := List.not_mem_nil

def single (x : τ) : Keyed τ key := ⟨[x], List.pairwise_singleton _ _⟩

@[simp] theorem mem_single {x y : τ} : x ∈ (single y : Keyed τ key) ↔ x = y := List.mem_singleton

/-! ## Keys tell members apart -/

theorem eq_of_not_lt {k l : String} (h : ¬k < l) (h' : ¬l < k) : k = l :=
  Std.le_antisymm (Std.not_lt.1 h') (Std.not_lt.1 h)

theorem eq_of_key_eq {xs : List τ} (h : xs.Pairwise fun x y => key x < key y) {x y : τ} (hx : x ∈ xs) (hy : y ∈ xs)
    (hk : key x = key y) : x = y := by
  induction xs with
  | nil => exact absurd hx List.not_mem_nil
  | cons z zs ih =>
    obtain ⟨hz, hzs⟩ := List.pairwise_cons.1 h
    rcases List.mem_cons.1 hx with ex | hx' <;> rcases List.mem_cons.1 hy with ey | hy'
    · exact ex.trans ey.symm
    · exact absurd (hk ▸ ex ▸ hz y hy') Std.lt_irrefl
    · exact absurd (hk ▸ ey ▸ hz x hx') Std.lt_irrefl
    · exact ih hzs hx' hy'

theorem pairwise_ext {xs ys : List τ} (hx : xs.Pairwise fun x y => key x < key y)
    (hy : ys.Pairwise fun x y => key x < key y) (h : ∀ z, z ∈ xs ↔ z ∈ ys) : xs = ys := by
  induction xs generalizing ys with
  | nil => exact (List.eq_nil_iff_forall_not_mem.2 fun z hz => List.not_mem_nil ((h z).2 hz)).symm
  | cons x xs ih =>
    cases ys with
    | nil => exact absurd ((h x).1 (List.mem_cons_self ..)) List.not_mem_nil
    | cons y ys =>
      obtain ⟨hx₁, hx₂⟩ := List.pairwise_cons.1 hx
      obtain ⟨hy₁, hy₂⟩ := List.pairwise_cons.1 hy
      have head : x = y := by
        rcases List.mem_cons.1 ((h x).1 (List.mem_cons_self ..)) with e | hm
        · exact e
        · rcases List.mem_cons.1 ((h y).2 (List.mem_cons_self ..)) with e | hm'
          · exact e.symm
          · exact absurd (Std.lt_trans (hy₁ x hm) (hx₁ y hm')) Std.lt_irrefl
      subst head
      rw [ih hx₂ hy₂ fun z => ⟨fun hz => ?_, fun hz => ?_⟩]
      · rcases List.mem_cons.1 ((h z).1 (List.mem_cons_of_mem _ hz)) with rfl | hm
        · exact absurd (hx₁ z hz) Std.lt_irrefl
        · exact hm
      · rcases List.mem_cons.1 ((h z).2 (List.mem_cons_of_mem _ hz)) with rfl | hm
        · exact absurd (hy₁ z hz) Std.lt_irrefl
        · exact hm

theorem ext {s t : Keyed τ key} (h : ∀ z, z ∈ s ↔ z ∈ t) : s = t := by
  obtain ⟨xs, hx⟩ := s
  obtain ⟨ys, hy⟩ := t
  obtain rfl : xs = ys := pairwise_ext hx hy h
  rfl

/-! ## Inserting -/

/-- Puts a member into its place, over the one with the same key. -/
def place (key : τ → String) (x : τ) : List τ → List τ
  | [] => [x]
  | y :: ys =>
    if key x < key y then x :: y :: ys
    else if key y < key x then y :: place key x ys
    else x :: ys

theorem mem_of_mem_place {x z : τ} {ys : List τ} (h : z ∈ place key x ys) : z = x ∨ z ∈ ys := by
  induction ys with
  | nil => simp_all [place]
  | cons y ys ih => grind [place]

theorem pairwise_place {x : τ} {ys : List τ} (h : ys.Pairwise fun x y => key x < key y) :
    (place key x ys).Pairwise fun x y => key x < key y := by
  induction ys with
  | nil => simp [place]
  | cons y ys ih =>
    obtain ⟨hy, hys⟩ := List.pairwise_cons.1 h
    rw [place]
    split
    · rename_i hxy
      refine List.pairwise_cons.2 ⟨fun z hz => ?_, h⟩
      rcases List.mem_cons.1 hz with rfl | hz
      · exact hxy
      · exact Std.lt_trans hxy (hy z hz)
    · split
      · rename_i hyx
        refine List.pairwise_cons.2 ⟨fun z hz => ?_, ih hys⟩
        rcases mem_of_mem_place hz with rfl | hz
        · exact hyx
        · exact hy z hz
      · rename_i h₁ h₂
        refine List.pairwise_cons.2 ⟨fun z hz => ?_, hys⟩
        rw [eq_of_not_lt h₁ h₂]
        exact hy z hz

theorem mem_place {x z : τ} {ys : List τ} (h : ys.Pairwise fun x y => key x < key y) :
    z ∈ place key x ys ↔ z = x ∨ (z ∈ ys ∧ key z ≠ key x) := by
  induction ys with
  | nil => simp [place]
  | cons y ys ih =>
    obtain ⟨hy, hys⟩ := List.pairwise_cons.1 h
    have later : ∀ w ∈ ys, ∀ {k : String}, ¬key y < k → key w ≠ k := fun w hw k hk e => hk (e ▸ hy w hw)
    rw [place]
    split
    · rename_i hxy
      have : ∀ w ∈ y :: ys, key w ≠ key x := fun w hw e => by
        rcases List.mem_cons.1 hw with rfl | hw
        · exact Std.lt_irrefl (e ▸ hxy)
        · exact Std.lt_irrefl (Std.lt_trans (e ▸ hxy) (hy w hw))
      rw [List.mem_cons]
      exact or_congr_right ⟨fun hz => ⟨hz, this z hz⟩, fun hz => hz.1⟩
    · split
      · rename_i hyx
        have : key y ≠ key x := fun e => Std.lt_irrefl (e ▸ hyx)
        rw [List.mem_cons, ih hys, List.mem_cons]
        constructor
        · rintro (rfl | rfl | ⟨hz, hk⟩)
          · exact .inr ⟨.inl rfl, this⟩
          · exact .inl rfl
          · exact .inr ⟨.inr hz, hk⟩
        · rintro (rfl | ⟨rfl | hz, hk⟩)
          · exact .inr (.inl rfl)
          · exact .inl rfl
          · exact .inr (.inr ⟨hz, hk⟩)
      · rename_i h₁ h₂
        have e : key x = key y := eq_of_not_lt h₁ h₂
        rw [List.mem_cons, List.mem_cons]
        constructor
        · rintro (rfl | hz)
          · exact .inl rfl
          · exact .inr ⟨.inr hz, later z hz h₂⟩
        · rintro (rfl | ⟨rfl | hz, hk⟩)
          · exact .inl rfl
          · exact absurd e.symm hk
          · exact .inr hz

def insert (s : Keyed τ key) (x : τ) : Keyed τ key := ⟨place key x s.toList, pairwise_place s.increasing⟩

theorem mem_insert {s : Keyed τ key} {x z : τ} : z ∈ s.insert x ↔ z = x ∨ (z ∈ s ∧ key z ≠ key x) :=
  mem_place s.increasing

/-- The members of a list; of those with one key the last one. -/
def ofList (xs : List τ) : Keyed τ key := xs.foldl insert empty

/-! ## Looking up and filtering -/

def find? (s : Keyed τ key) (k : String) : Option τ := s.toList.find? fun x => key x = k

theorem find?_eq_some_iff {s : Keyed τ key} {k : String} {x : τ} : s.find? k = some x ↔ x ∈ s ∧ key x = k := by
  constructor
  · intro h
    exact ⟨List.mem_of_find?_eq_some h, by simpa using List.find?_some h⟩
  · rintro ⟨hx, rfl⟩
    cases h : s.find? (key x) with
    | none => exact absurd (List.find?_eq_none.1 h x hx) (by simp)
    | some y =>
      rw [eq_of_key_eq s.increasing (List.mem_of_find?_eq_some h) hx (by simpa using List.find?_some h)]

def filter (keep : τ → Bool) (s : Keyed τ key) : Keyed τ key :=
  ⟨s.toList.filter keep, s.increasing.sublist List.filter_sublist⟩

@[simp] theorem mem_filter {keep : τ → Bool} {s : Keyed τ key} {x : τ} :
    x ∈ s.filter keep ↔ x ∈ s ∧ keep x = true := List.mem_filter

end Keyed

end Descent
