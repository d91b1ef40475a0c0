import Descent.Proofs.Collection
import Descent.Stream.Kinds

/-!
# Bounds are kept

A repetition that succeeds has a number of items that its bounds admit (`Bounds.Admits`), also when they are inverted and
admit none: `admits_times`, `admits_manyUntil`. Items with separators are put together from a first item and a repetition
of the others with shifted bounds, and from an empty list where that is admitted. They keep to their bounds
as well (`admits_separated`), with one exception: a greatest number of 0 is answered before the least number is looked at
(`runAt_separated_zero`). So they succeed with no item at all under bounds such as 1..1, which admit no number
(`separated_empty_range`).
-/

namespace Descent

def Bounds.Admits (b : Bounds) (count : Nat) : Prop := b.min ≤ count ∧ ∀ max ∈ b.max, count ≤ max

instance (b : Bounds) (count : Nat) : Decidable (b.Admits count) :=
  inferInstanceAs (Decidable (b.min ≤ count ∧ ∀ max ∈ b.max, count ≤ max))

/-- Whether no more than the greatest number of items has been collected. -/
def Bounds.Fits {α : Type} (b : Bounds) (vs : List α) (_ : Nat) : Prop := ∀ max ∈ b.max, vs.length ≤ max

variable {ι : Type} [Item ι] {Γ : Nat → Type} {α β : Type}

/-! ## Parsers -/

section Parsers

variable {b : Bounds} {s : Stream ι} {pos : Nat}

theorem Bounds.Fits.push {vs : List α} {next : Nat} (hroom : ∀ max ∈ b.max, vs.length < max) (v : α) :
    b.Fits (vs ++ [v]) next := by
  intro max hmax
  have := hroom max hmax
  rw [List.length_append, List.length_singleton]
  omega

theorem gives_times_admits (budget : Nat) (b : Bounds) (p : Parser Option ι α) (s : Stream ι) (pos : Nat) :
    Gives (Parser.times budget b p) s pos fun vs _ => b.Admits vs.length := by
  have hitem : ∀ vs pos, b.Fits vs pos → (∀ max ∈ b.max, vs.length < max) →
      Gives p s pos fun v next => b.Fits (vs ++ [v]) next := by
    intro vs pos _ hroom
    exact (gives_true p s pos).mono fun v next _ => Bounds.Fits.push hroom v
  have hstart : b.Fits ([] : List α) pos := fun max _ => Nat.zero_le max
  refine (Gives.times budget hitem hstart).mono fun vs next h => ?_
  obtain ⟨hmax, hmin⟩ := h
  exact ⟨hmin, hmax⟩

theorem gives_repeatUntil_admits (budget : Nat) (b : Bounds) (p : Parser Option ι α) (stop : Parser Option ι β)
    (s : Stream ι) (pos : Nat) :
    Gives (Parser.repeatUntil budget b (fun _ => none) p stop) s pos fun vs _ => b.Admits vs.length := by
  have hitem : ∀ vs pos, b.Fits vs pos → (∀ max ∈ b.max, vs.length < max) →
      Gives p s pos fun v next => b.Fits (vs ++ [v]) next := by
    intro vs pos _ hroom
    exact (gives_true p s pos).mono fun v next _ => Bounds.Fits.push hroom v
  have hstart : b.Fits ([] : List α) pos := fun max _ => Nat.zero_le max
  refine Gives.repeatUntil budget (fun vs pos hmax hmin => ?_) hitem hstart
  refine (gives_true stop s pos).mono fun u next _ => ⟨nofun, fun _ => ?_⟩
  exact ⟨hmin, hmax⟩

end Parsers

/-! ## Grammars -/

section Grammars

variable [DecidableEq ι] (d : Declarations ι Γ) (budget : Nat) (b : Bounds) (g : Grammar ι Γ α)
  (separator : Grammar ι Γ β) (s : Stream ι) (pos : Nat)

theorem admits_times {vs : List α} {next : Nat} {w : Option Furthest}
    (hrun : d.runAt budget (.times b g) s pos = some (.success vs next w)) : b.Admits vs.length := by
  rw [Declarations.runAt, Parser.run_plain] at hrun
  exact gives_times_admits budget b (d.parser budget g) s pos _ hrun

theorem admits_manyUntil {vs : List α} {next : Nat} {w : Option Furthest}
    (hrun : d.runAt budget (.manyUntilBounded b g separator) s pos = some (.success vs next w)) :
    b.Admits vs.length := by
  rw [Declarations.runAt, Parser.run_plain] at hrun
  exact gives_repeatUntil_admits budget b (d.parser budget g) (d.parser budget separator) s pos _ hrun

theorem runAt_separated_zero (hmax : b.max = some 0) :
    d.runAt budget (.sepByBounded b g separator) s pos = some (.done [] pos) := by
  rw [Grammar.sepByBounded, if_pos hmax]
  exact d.runAt_leaf budget (.succeed []) s pos

theorem gives_separated_items (hmax : b.max ≠ some 0) :
    Gives (d.parser budget (.merge (.zip g (.times ⟨b.min - 1, b.max.map (· - 1)⟩ (.andThen separator g)))))
      s pos fun vs _ => b.Admits vs.length := by
  refine Gives.map _ (Gives.thenCombine _ ?_)
  refine (gives_true (d.parser budget g) s pos).mono fun v next _ => ?_
  refine (gives_times_admits budget _ (d.parser budget (.andThen separator g)) s next).mono fun vs _ htail => ?_
  have hleast : b.min - 1 ≤ vs.length := htail.1
  have hmost : ∀ max ∈ b.max.map (· - 1), vs.length ≤ max := htail.2
  constructor
  · simp only [List.length_cons]
    omega
  · intro max hmem
    have hmem : b.max = some max := hmem
    have hpos : max ≠ 0 := by
      rintro rfl
      exact hmax hmem
    have hle : vs.length ≤ max - 1 := hmost (max - 1) (by simp [hmem])
    simp only [List.length_cons]
    omega

theorem admits_separated (hmax : b.max ≠ some 0) {vs : List α} {next : Nat} {w : Option Furthest}
    (hrun : d.runAt budget (.sepByBounded b g separator) s pos = some (.success vs next w)) :
    b.Admits vs.length := by
  have hitems := gives_separated_items d budget b g separator s pos hmax
  rw [Declarations.runAt, Parser.run_plain, Grammar.sepByBounded, if_neg hmax] at hrun
  by_cases hmin : b.min = 0
  · -- the empty list is the last resort of an alternation
    have hnone : Gives (d.parser budget (.succeed ([] : List α))) s pos fun vs _ => b.Admits vs.length := by
      intro step hstep
      rw [Declarations.parser, Grammar.succeed, Grammar.parser_leaf] at hstep
      obtain rfl := Option.some.inj hstep
      exact ⟨by simp [hmin], fun max _ => Nat.zero_le max⟩
    have hboth : ∀ p ∈ [d.parser budget (.merge (.zip g (.times ⟨b.min - 1, b.max.map (· - 1)⟩ (.andThen separator g)))),
        d.parser budget (.succeed [])], Gives p s pos fun vs _ => b.Admits vs.length := by
      simp only [List.mem_cons, List.not_mem_nil, or_false, forall_eq_or_imp, forall_eq]
      exact ⟨hitems, hnone⟩
    simp only [if_pos hmin] at hrun
    exact gives_altFrom hboth pos none _ hrun
  · simp only [if_neg hmin] at hrun
    exact hitems _ hrun

/-- **Repetitions keep to their bounds.** What succeeds has a number of items that the bounds admit; only items with
separators come back without any where the greatest number is 0 and the least one is not. -/
theorem repetitions_keep_bounds :
    (∀ vs next w, d.runAt budget (.times b g) s pos = some (.success vs next w) → b.Admits vs.length) ∧
    (∀ vs next w, d.runAt budget (.manyUntilBounded b g separator) s pos = some (.success vs next w) →
      b.Admits vs.length) ∧
    (∀ vs next w, d.runAt budget (.sepByBounded b g separator) s pos = some (.success vs next w) →
      b.Admits vs.length ∨ b.max = some 0 ∧ 0 < b.min ∧ vs = []) ∧
    (b.max = some 0 → d.runAt budget (.sepByBounded b g separator) s pos = some (.done [] pos)) := by
  refine ⟨fun vs next w hrun => admits_times d budget b g s pos hrun,
    fun vs next w hrun => admits_manyUntil d budget b g separator s pos hrun, fun vs next w hrun => ?_,
    runAt_separated_zero d budget b g separator s pos⟩
  by_cases hmax : b.max = some 0
  · rw [runAt_separated_zero d budget b g separator s pos hmax] at hrun
    cases hrun
    by_cases hmin : b.min = 0
    · exact .inl ⟨by simp [hmin], fun max _ => Nat.zero_le max⟩
    · exact .inr ⟨hmax, Nat.pos_of_ne_zero hmin, rfl⟩
  · exact .inl (admits_separated d budget b g separator s pos hmax hrun)

end Grammars

/-- Of three letters with commas between them, bounds of at most two admit the first two. -/
theorem repetitions_keep_bounds_letters :
    (Declarations.none : Declarations Char fun _ => String).runAt 4
      (.sepByBounded (.rangeIncl 1 2) (.matchOne 'a') (.matchOne ',')) (.ofString "a,a,a") 0
        = some (.success ['a', 'a'] 3 none) ∧
    (Bounds.rangeIncl 1 2).Admits ['a', 'a'].length := by
  have hrun : (Declarations.none : Declarations Char fun _ => String).runAt 4
      (.sepByBounded (.rangeIncl 1 2) (.matchOne 'a') (.matchOne ',')) (.ofString "a,a,a") 0
        = some (.success ['a', 'a'] 3 none) := by decide
  have hcount := (repetitions_keep_bounds Declarations.none 4 (.rangeIncl 1 2)
    (.matchOne 'a' : Grammar Char (fun _ => String) Char) (.matchOne ',') (.ofString "a,a,a") 0).2.2.1 _ _ _ hrun
  refine ⟨hrun, ?_⟩
  rcases hcount with hadmits | ⟨hmax, -⟩
  · exact hadmits
  · cases hmax

/-- The range 1..1 is empty, and yet items with separators succeed under it, with none. -/
theorem separated_empty_range :
    (Declarations.none : Declarations Char fun _ => String).runAt 4
      (.sepByBounded (.range 1 1) (.matchOne 'a') (.matchOne ',')) (.ofString "") 0 = some (.success [] 0 none) ∧
    ∀ count, ¬(Bounds.range 1 1).Admits count := by
  refine ⟨by decide, fun count hadmits => ?_⟩
  obtain ⟨hmin, hmax⟩ := hadmits
  have hle : count ≤ 0 := hmax 0 rfl
  have hge : 1 ≤ count := hmin
  omega

end Descent
