import Descent.Parser.Repeat
import Descent.Proofs.Report
import Mathlib.Tactic.ByContra

/-!
# Turns of a repetition

A repetition without a greatest number gives up when its item succeeds without moving from the least number of items on.
Where the item goes on in the stream (`Step.Advances`), each turn either moves on or is one of the first ones, so there
are only so many of them (`turnsLeft`). So a repetition comes back when its parts do (`exists_timesFrom`,
`exists_untilFrom`).
-/

namespace Descent

variable {ι : Type} [Item ι] {α β : Type}

/-- A step from `pos` that goes on no earlier, and no later than `limit`, if it succeeds. -/
def Step.Advances (pos limit : Nat) : Step α → Prop
  | success _ next _ => pos ≤ next ∧ next ≤ limit
  | _ => True

/-- Whether a parser comes back from every offset that is not before `pos`, with steps that advance. -/
def ReturnsFrom (p : Parser Option ι α) (s : Stream ι) (pos : Nat) : Prop :=
  ∀ q, pos ≤ q → q ≤ s.length → ∃ step, p s q = some step ∧ step.Advances q s.length

theorem ReturnsFrom.mono {p : Parser Option ι α} {s : Stream ι} {pos next : Nat} (h : ReturnsFrom p s pos)
    (hle : pos ≤ next) : ReturnsFrom p s next := fun q hq => h q (Nat.le_trans hle hq)

/-- The most turns that are left to a repetition with `count` items: those that it may make without moving, one for each
offset up to `limit`, and the last one. -/
def turnsLeft (b : Bounds) (count pos limit : Nat) : Nat := b.min - count + (limit - pos) + 1

theorem turnsLeft_lt {b : Bounds} {count pos next limit : Nat} (hmax : b.max = none)
    (hstall : ¬Parser.stalls b count pos next = true) (hle : pos ≤ next) (hlimit : next ≤ limit) :
    turnsLeft b (count + 1) next limit < turnsLeft b count pos limit := by
  have hmoves : next ≠ pos ∨ count < b.min := by
    by_contra h
    rw [not_or, not_not, Nat.not_lt] at h
    exact hstall (by simp [Parser.stalls, hmax, h])
  rw [turnsLeft, turnsLeft]
  omega

/-! ## Repetitions come back -/

section Returns

variable {b : Bounds} {p : Parser Option ι α} {stop : Parser Option ι β} {s : Stream ι}

theorem exists_timesEnd (b : Bounds) (values : Array α) (pos : Nat) (seen : Option Furthest) :
    ∃ step, (Parser.timesEnd b values pos seen : Option _) = some step := by
  rw [Parser.timesEnd]
  split <;> exact ⟨_, rfl⟩

theorem exists_timesFrom {allowance pos : Nat} {values : Array α} (hpos : pos ≤ s.length) (hp : ReturnsFrom p s pos)
    (hallow : b.max = none → turnsLeft b values.size pos s.length ≤ allowance) (seen : Option Furthest) :
    ∃ step, Parser.timesFrom b p s allowance values pos seen = some step := by
  induction allowance generalizing values pos seen with
  | zero =>
    have hmax : ¬b.max.isNone = true := by
      intro hnone
      have := hallow (by simpa using hnone)
      rw [turnsLeft] at this
      omega
    rw [Parser.timesFrom, if_neg hmax]
    exact exists_timesEnd b values pos seen
  | succ n ih =>
    obtain ⟨step, hrun, hadvances⟩ := hp pos (Nat.le_refl _) hpos
    rw [Parser.timesFrom, Parser.run_plain, hrun]
    cases step with
    | success v next w =>
      simp only [Option.bind_eq_bind, Option.bind_some]
      split
      · exact ⟨_, rfl⟩
      next hstall =>
        refine ih hadvances.2 (hp.mono hadvances.1) (fun hmax => ?_) _
        have hless := turnsLeft_lt hmax hstall hadvances.1 hadvances.2
        have henough := hallow hmax
        rw [Array.size_push]
        omega
    | fail q w =>
      simp only [Option.bind_eq_bind, Option.bind_some]
      split
      · exact ⟨_, rfl⟩
      · exact exists_timesEnd b values pos _
    | error e => exact ⟨_, rfl⟩

variable {again : Option (Array α → Nat → Option Furthest → Option (Step (List α)))}

theorem exists_untilItem {pos : Nat} {values : Array α} (hpos : pos ≤ s.length) (hp : ReturnsFrom p s pos)
    (hspent : again = none → ∃ max, b.max = some max ∧ max ≤ values.size)
    (hagain : ∀ go ∈ again, ∀ v next seen, pos ≤ next → next ≤ s.length →
      ¬Parser.stalls b values.size pos next = true → ∃ step, go (values.push v) next seen = some step)
    (missed seen : Option Furthest) :
    ∃ step, Parser.untilItem b p s again missed values pos seen = some step := by
  unfold Parser.untilItem
  cases hfull : b.max.filter (· ≤ values.size) with
  | some max => exact ⟨_, rfl⟩
  | none =>
    cases again with
    | none =>
      obtain ⟨max, hmax, hle⟩ := hspent rfl
      exact absurd (by simpa using hle) (Option.filter_eq_none_iff.1 hfull max hmax)
    | some go =>
      obtain ⟨step, hrun, hadvances⟩ := hp pos (Nat.le_refl _) hpos
      rw [Parser.run_plain, hrun]
      cases step with
      | success v next w =>
        simp only [Option.bind_eq_bind, Option.bind_some]
        split
        · exact ⟨_, rfl⟩
        next hstall => exact hagain go rfl v next _ hadvances.1 hadvances.2 hstall
      | fail q w =>
        simp only [Option.bind_eq_bind, Option.bind_some]
        split <;> exact ⟨_, rfl⟩
      | error e => exact ⟨_, rfl⟩

theorem exists_untilTurn {keep : β → Option α} {pos : Nat} {values : Array α} (hpos : pos ≤ s.length)
    (hp : ReturnsFrom p s pos) (hstop : ∃ halt, stop s pos = some halt)
    (hspent : again = none → ∃ max, b.max = some max ∧ max ≤ values.size)
    (hagain : ∀ go ∈ again, ∀ v next seen, pos ≤ next → next ≤ s.length →
      ¬Parser.stalls b values.size pos next = true → ∃ step, go (values.push v) next seen = some step)
    (seen : Option Furthest) :
    ∃ step, Parser.untilTurn b keep p stop s again values pos seen = some step := by
  obtain ⟨halt, hrun⟩ := hstop
  rw [Parser.untilTurn, Parser.run_plain, hrun]
  cases halt with
  | success u next w =>
    simp only [Option.bind_eq_bind, Option.bind_some]
    split
    · cases keep u <;> exact ⟨_, rfl⟩
    · exact exists_untilItem hpos hp hspent hagain none seen
  | fail q w => exact exists_untilItem hpos hp hspent hagain (some w) seen
  | error e => exact ⟨_, rfl⟩

theorem exists_untilFrom {keep : β → Option α} {allowance pos : Nat} {values : Array α} (hpos : pos ≤ s.length)
    (hp : ReturnsFrom p s pos) (hstop : ∀ q, pos ≤ q → q ≤ s.length → ∃ halt, stop s q = some halt)
    (hallow : b.max = none → turnsLeft b values.size pos s.length ≤ allowance)
    (hbounded : ∀ max, b.max = some max → max ≤ values.size + allowance) (seen : Option Furthest) :
    ∃ step, Parser.untilFrom b keep p stop s allowance values pos seen = some step := by
  induction allowance generalizing values pos seen with
  | zero =>
    refine exists_untilTurn hpos hp (hstop pos (Nat.le_refl _) hpos) (fun _ => ?_) ?_ seen
    · cases hmax : b.max with
      | none =>
        have := hallow hmax
        rw [turnsLeft] at this
        omega
      | some max => exact ⟨max, rfl, hbounded max hmax⟩
    · intro go hgo
      cases hgo
  | succ n ih =>
    refine exists_untilTurn hpos hp (hstop pos (Nat.le_refl _) hpos) ?_
      (fun go hgo v next seen hle hlimit hstall => ?_) seen
    · intro hnone
      cases hnone
    obtain rfl := Option.mem_some.1 hgo
    refine ih hlimit (hp.mono hle) (fun q hq => hstop q (Nat.le_trans hle hq)) (fun hmax => ?_)
      (fun max hmax => ?_) seen
    · have hless := turnsLeft_lt hmax hstall hle hlimit
      have henough := hallow hmax
      rw [Array.size_push]
      omega
    · have henough := hbounded max hmax
      rw [Array.size_push]
      omega

variable {budget pos : Nat}

/-- A budget for each offset that is left is enough. -/
theorem turnsLeft_le_allowance {limit : Nat} (hbudget : limit - pos < budget) (hmax : b.max = none) :
    turnsLeft b 0 pos limit ≤ b.allowance budget := by
  rw [turnsLeft, Bounds.allowance, hmax, Option.getD_none]
  omega

theorem exists_times (hpos : pos ≤ s.length) (hp : ReturnsFrom p s pos) (hbudget : s.length - pos < budget) :
    ∃ step, Parser.times budget b p s pos = some step :=
  exists_timesFrom hpos hp (turnsLeft_le_allowance hbudget) none

theorem exists_repeatUntil {keep : β → Option α} (hpos : pos ≤ s.length) (hp : ReturnsFrom p s pos)
    (hstop : ∀ q, pos ≤ q → q ≤ s.length → ∃ halt, stop s q = some halt) (hbudget : s.length - pos < budget) :
    ∃ step, Parser.repeatUntil budget b keep p stop s pos = some step := by
  refine exists_untilFrom hpos hp hstop (turnsLeft_le_allowance hbudget) (fun max hmax => ?_) none
  rw [Bounds.allowance, hmax]
  exact Nat.le_add_left max _

end Returns

end Descent
