import Descent.Proofs.Counts

/-!
# Ranges of counts

A repetition may be given a range of counts, which stands for bounds (`CountRange.bounds`). An end that the range leaves
out is lowered by one, since bounds include theirs. So the bounds admit the counts of the range and no others,
with one exception (`admits_bounds_iff`): an end of 0 cannot be lowered. The range 0..0, and the range of everything below
0, contain no count, and their bounds are those of 0..1 and admit one (`bounds_of_stopsAtZero`). So a repetition that is
given one of these succeeds, with no item, where under any other empty range it never does (`ranges_bound_counts`).
-/

namespace Descent

namespace CountRange

def Contains : CountRange → Nat → Prop
  | halfOpen a b, count => a ≤ count ∧ count < b
  | closed a b, count => a ≤ count ∧ count ≤ b
  | startingAt a, count => a ≤ count
  | below b, count => count < b
  | upTo b, count => count ≤ b
  | full, _ => True

/-- Whether the range starts at 0 and leaves out 0 as its end. -/
def StopsAtZero : CountRange → Prop
  | halfOpen a b => a = 0 ∧ b = 0
  | below b => b = 0
  | _ => False

variable {r : CountRange}

theorem not_contains_of_stopsAtZero (h : r.StopsAtZero) (count : Nat) : ¬r.Contains count := by
  intro hcount
  cases r with
  | halfOpen a b =>
    obtain ⟨-, rfl⟩ := h
    exact Nat.not_lt_zero count hcount.2
  | below b =>
    obtain rfl : b = 0 := h
    exact Nat.not_lt_zero count hcount
  | closed | startingAt | upTo | full => exact h

theorem bounds_of_stopsAtZero (h : r.StopsAtZero) : r.bounds = ⟨0, some 0⟩ := by
  cases r with
  | halfOpen a b =>
    obtain ⟨rfl, rfl⟩ := h
    rfl
  | below b =>
    obtain rfl : b = 0 := h
    rfl
  | closed | startingAt | upTo | full => exact h.elim

theorem admits_bounds_iff (r : CountRange) (count : Nat) :
    r.bounds.Admits count ↔ r.Contains count ∨ r.StopsAtZero ∧ count = 0 := by
  cases r with
  | halfOpen a b =>
    simp only [Bounds.Admits, bounds, Bounds.range, Contains, StopsAtZero, Option.mem_def, Option.some.injEq,
      forall_eq']
    omega
  | below b =>
    simp only [Bounds.Admits, bounds, Bounds.below, Bounds.atMost, Contains, StopsAtZero, Option.mem_def,
      Option.some.injEq, forall_eq']
    omega
  | closed a b => simp [Bounds.Admits, bounds, Bounds.rangeIncl, Contains, StopsAtZero]
  | startingAt a => simp [Bounds.Admits, bounds, Bounds.atLeast, Contains, StopsAtZero]
  | upTo b => simp [Bounds.Admits, bounds, Bounds.atMost, Contains, StopsAtZero]
  | full => simp [Bounds.Admits, bounds, Bounds.any, Bounds.atLeast, Contains, StopsAtZero]

end CountRange

variable {ι : Type} [Item ι] [DecidableEq ι] {Γ : Nat → Type} {α : Type}

theorem runAt_times_zero (d : Declarations ι Γ) (budget : Nat) (g : Grammar ι Γ α) (s : Stream ι) (pos : Nat) :
    d.runAt budget (.times ⟨0, some 0⟩ g) s pos = some (.done [] pos) := by
  rw [Declarations.runAt, Parser.run_plain]
  rfl

/-- **A range of counts bounds a repetition.** Its bounds admit just its counts, and so does a repetition that succeeds
under it, with one exception: a range from 0 that leaves out 0 as its end contains no count, and yet its bounds admit 0,
and a repetition under it always succeeds where it is, with no item. -/
theorem ranges_bound_counts (d : Declarations ι Γ) (budget : Nat) (g : Grammar ι Γ α) (s : Stream ι) (pos : Nat)
    (r : CountRange) :
    (∀ count, r.bounds.Admits count ↔ r.Contains count ∨ r.StopsAtZero ∧ count = 0) ∧
    (∀ vs next w, d.runAt budget (.times r.bounds g) s pos = some (.success vs next w) →
      r.Contains vs.length ∨ r.StopsAtZero ∧ vs = []) ∧
    (r.StopsAtZero →
      (∀ count, ¬r.Contains count) ∧ d.runAt budget (.times r.bounds g) s pos = some (.done [] pos)) := by
  refine ⟨r.admits_bounds_iff, ?_, ?_⟩
  · intro vs next w hrun
    have hadmits : r.bounds.Admits vs.length := admits_times d budget r.bounds g s pos hrun
    rcases (r.admits_bounds_iff vs.length).1 hadmits with hcount | ⟨hstops, hzero⟩
    · exact .inl hcount
    · exact .inr ⟨hstops, List.eq_nil_of_length_eq_zero hzero⟩
  · intro hstops
    refine ⟨CountRange.not_contains_of_stopsAtZero hstops, ?_⟩
    rw [CountRange.bounds_of_stopsAtZero hstops]
    exact runAt_times_zero d budget g s pos

def Grammar.lettersWithin (r : CountRange) : Grammar Char (fun _ => String) (List Char) := times r.bounds (matchOne 'a')

/-- The range 1..3 leaves out its end, and so does a repetition of three letters. -/
theorem ranges_bound_counts_letters :
    Declarations.none.runAt 4 (.lettersWithin (.halfOpen 1 3)) (.ofString "aaa") 0 = some (.done ['a', 'a'] 2) ∧
    (CountRange.halfOpen 1 3).Contains ['a', 'a'].length ∧
    (CountRange.below 0).StopsAtZero ∧
    Declarations.none.runAt 4 (.lettersWithin (.below 0)) (.ofString "aaa") 1 = some (.done [] 1) := by
  have hrun : Declarations.none.runAt 4 (.lettersWithin (.halfOpen 1 3)) (.ofString "aaa") 0
      = some (.done ['a', 'a'] 2) := by decide
  have hcounts := ranges_bound_counts .none 4 (.matchOne 'a' : Grammar Char (fun _ => String) Char) (.ofString "aaa") 0
    (.halfOpen 1 3)
  have hzero := ranges_bound_counts .none 4 (.matchOne 'a' : Grammar Char (fun _ => String) Char) (.ofString "aaa") 1
    (.below 0)
  have hstops : (CountRange.below 0).StopsAtZero := rfl
  refine ⟨hrun, ?_, hstops, (hzero.2.2 hstops).2⟩
  rcases hcounts.2.1 _ _ _ hrun with hcount | ⟨⟨hfirst, -⟩, -⟩
  · exact hcount
  · exact absurd hfirst (by decide)

/-- The range 0..0 contains no count, and yet a repetition under it succeeds, with none of the letters. -/
theorem empty_range_from_zero :
    (∀ count, ¬(CountRange.halfOpen 0 0).Contains count) ∧
    (CountRange.halfOpen 0 0).bounds.Admits 0 ∧
    Declarations.none.runAt 4 (.lettersWithin (.halfOpen 0 0)) (.ofString "a") 0 = some (.success [] 0 none) := by
  refine ⟨?_, by decide, by decide⟩
  rintro count ⟨-, hlt⟩
  exact Nat.not_lt_zero count hlt

end Descent
