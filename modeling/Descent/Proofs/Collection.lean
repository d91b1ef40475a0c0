import Descent.Proofs.Consumption

/-!
# What successes are made of

`Gives p s pos P`: where a plain run of `p` from `pos` succeeds, its value and the offset where it ends meet `P`. There is
one rule for each combinator. Those for rows and repetitions take a relation `I` between the values collected so far and
the offset that has been reached: what an item adds keeps it (`gives_seqFrom`, `Gives.times`, `Gives.repeatUntil`).
-/

namespace Descent

variable {ι : Type} [Item ι] {α β γ : Type}

def Step.Meets (P : α → Nat → Prop) : Step α → Prop
  | success v next _ => P v next
  | _ => True

namespace Step

variable {P Q : α → Nat → Prop}

theorem Meets.mono {step : Step α} (h : step.Meets P) (hPQ : ∀ v next, P v next → Q v next) : step.Meets Q := by
  cases step with
  | success v next w => exact hPQ v next h
  | fail q w => trivial
  | error e => trivial

@[simp] theorem meets_aggregate {step : Step α} (w : Option Furthest) :
    (step.aggregate w).Meets P ↔ step.Meets P := by
  cases step <;> rfl

@[simp] theorem meets_map {step : Step β} (f : β → α) :
    (step.map f).Meets P ↔ step.Meets fun v next => P (f v) next := by
  cases step <;> rfl

end Step

/-- Whether the values that a parser comes back with from an offset, and the offsets where they end, meet `P`. -/
def Gives (p : Parser Option ι α) (s : Stream ι) (pos : Nat) (P : α → Nat → Prop) : Prop :=
  Brings (p s pos) (Step.Meets P)

section Gives

variable {p : Parser Option ι α} {q : Parser Option ι β} {s : Stream ι} {pos : Nat} {P Q : α → Nat → Prop}

theorem Gives.mono (hp : Gives p s pos P) (hPQ : ∀ v next, P v next → Q v next) : Gives p s pos Q :=
  Brings.mono hp fun _ hstep => hstep.mono hPQ

theorem gives_true (p : Parser Option ι α) (s : Stream ι) (pos : Nat) : Gives p s pos fun _ _ => True := by
  intro step _
  cases step <;> trivial

theorem Gives.run (hp : Gives p s pos P) : Brings (Parser.run p s pos) (Step.Meets P) := by
  rw [Parser.run_plain]
  exact hp

theorem Gives.map (f : β → α) (hq : Gives q s pos fun v next => P (f v) next) : Gives (Parser.map f q) s pos P := by
  refine hq.run.bind fun step hstep => .pure ?_
  rw [Step.meets_map]
  exact hstep

theorem Gives.thenCombine {R : γ → Nat → Prop} (f : α → β → γ)
    (hp : Gives p s pos fun v next => Gives q s next fun u stop => R (f v u) stop) :
    Gives (Parser.thenCombine f p q) s pos R := by
  refine hp.run.bind fun step hstep => ?_
  cases step with
  | success v next w =>
    have hq : Gives q s next fun u stop => R (f v u) stop := hstep
    refine hq.run.bind fun step' hstep' => .pure ?_
    rw [Step.meets_map, Step.meets_aggregate]
    exact hstep'
  | fail r w => exact .pure trivial
  | error e => exact .pure trivial

theorem Gives.desc (d : String) (hp : Gives p s pos P) : Gives (Parser.desc d p) s pos P := by
  refine hp.run.bind fun step hstep => ?_
  cases step with
  | success v next w => exact .pure hstep
  | fail r w =>
    simp only
    split
    · exact .pure trivial
    · exact .pure trivial
  | error e => exact .pure trivial

/-! ## Rows and choices -/

theorem gives_seqFrom {ps : List (Parser Option ι α)} {I : List α → Nat → Prop}
    (hps : ∀ p ∈ ps, ∀ vs pos, I vs pos → Gives p s pos fun v next => I (vs ++ [v]) next) {values : Array α}
    (h : I values.toList pos) (seen : Option Furthest) :
    Brings (Parser.seqFrom s ps values pos seen) (Step.Meets I) := by
  induction ps generalizing values pos seen with
  | nil => exact .pure h
  | cons p ps ih =>
    have hp := hps p (List.mem_cons_self ..) values.toList pos h
    refine hp.run.bind fun step hstep => ?_
    cases step with
    | success v next w =>
      have hnext : I (values.push v).toList next := by
        rw [Array.toList_push]
        exact hstep
      exact ih (fun p hp => hps p (List.mem_cons_of_mem _ hp)) hnext _
    | fail r w => exact .pure trivial
    | error e => exact .pure trivial

theorem gives_altFrom {ps : List (Parser Option ι α)} (hps : ∀ p ∈ ps, Gives p s pos P) (failedAt : Nat)
    (seen : Option Furthest) : Brings (Parser.altFrom s pos ps failedAt seen) (Step.Meets P) := by
  induction ps generalizing failedAt seen with
  | nil => cases seen <;> exact .pure trivial
  | cons p ps ih =>
    have hp := hps p (List.mem_cons_self ..)
    refine hp.run.bind fun step hstep => ?_
    cases step with
    | success v next w => exact .pure hstep
    | fail r w => exact ih (fun p hp => hps p (List.mem_cons_of_mem _ hp)) _ _
    | error e => exact .pure trivial

/-! ## Repetition -/

variable {b : Bounds} {I : List α → Nat → Prop}

theorem brings_timesEnd_meets {values : Array α} (h : I values.toList pos) (seen : Option Furthest) :
    Brings (Parser.timesEnd b values pos seen) (Step.Meets fun vs next => I vs next ∧ b.min ≤ vs.length) := by
  rw [Parser.timesEnd]
  split
  · exact .pure trivial
  next hmin =>
    have hlength : b.min ≤ values.toList.length := by
      rw [Array.length_toList]
      omega
    exact .pure ⟨h, hlength⟩

theorem brings_timesFrom_meets
    (hp : ∀ vs pos, I vs pos → (∀ max ∈ b.max, vs.length < max) → Gives p s pos fun v next => I (vs ++ [v]) next)
    {allowance : Nat} {values : Array α} (hallow : ∀ max ∈ b.max, values.size + allowance ≤ max)
    (h : I values.toList pos) (seen : Option Furthest) :
    Brings (Parser.timesFrom b p s allowance values pos seen)
      (Step.Meets fun vs next => I vs next ∧ b.min ≤ vs.length) := by
  induction allowance generalizing values pos seen with
  | zero =>
    rw [Parser.timesFrom]
    split
    · exact .giveUp
    · exact brings_timesEnd_meets h seen
  | succ n ih =>
    have hroom : ∀ max ∈ b.max, values.toList.length < max := by
      intro max hmax
      have := hallow max hmax
      rw [Array.length_toList]
      omega
    refine (hp values.toList pos h hroom).run.bind fun step hstep => ?_
    cases step with
    | success v next w =>
      simp only
      split
      · exact .pure trivial
      · have hallow' : ∀ max ∈ b.max, (values.push v).size + n ≤ max := by
          intro max hmax
          have := hallow max hmax
          rw [Array.size_push]
          omega
        have hnext : I (values.push v).toList next := by
          rw [Array.toList_push]
          exact hstep
        exact ih hallow' hnext _
    | fail r w =>
      simp only
      split
      · exact .pure trivial
      · exact brings_timesEnd_meets h _
    | error e => exact .pure trivial

theorem Gives.times (budget : Nat)
    (hp : ∀ vs pos, I vs pos → (∀ max ∈ b.max, vs.length < max) → Gives p s pos fun v next => I (vs ++ [v]) next)
    (h : I [] pos) :
    Gives (Parser.times budget b p) s pos fun vs next => I vs next ∧ b.min ≤ vs.length := by
  have hallow : ∀ max ∈ b.max, (#[] : Array α).size + b.allowance budget ≤ max := by
    intro max hmax
    have hmax : b.max = some max := hmax
    simp [Bounds.allowance, hmax]
  exact brings_timesFrom_meets hp hallow h none

/-! ### Up to a terminator -/

section Until

variable {keep : β → Option α} {R : List α → Nat → Prop}
  {again : Option (Array α → Nat → Option Furthest → Option (Step (List α)))}

theorem brings_untilItem_meets {values : Array α}
    (hp : (∀ max ∈ b.max, values.size < max) → Gives p s pos fun v next => I (values.toList ++ [v]) next)
    (hagain : ∀ go ∈ again, ∀ values next seen, I values.toList next → Brings (go values next seen) (Step.Meets R))
    (missed seen : Option Furthest) :
    Brings (Parser.untilItem b p s again missed values pos seen) (Step.Meets R) := by
  unfold Parser.untilItem
  cases hfull : b.max.filter (· ≤ values.size) with
  | some max => exact .pure trivial
  | none =>
    cases again with
    | none => exact .giveUp
    | some go =>
      have hroom : ∀ max ∈ b.max, values.size < max := by
        intro max hmax
        have := Option.filter_eq_none_iff.1 hfull max hmax
        simpa using this
      refine (hp hroom).run.bind fun step hstep => ?_
      cases step with
      | success v next w =>
        simp only
        split
        · exact .pure trivial
        · have hnext : I (values.push v).toList next := by
            rw [Array.toList_push]
            exact hstep
          exact hagain go rfl _ _ _ hnext
      | fail r w =>
        simp only
        split
        · exact .pure trivial
        · exact .pure trivial
      | error e => exact .pure trivial

/-- A terminator ends the repetition from the least number of items on; below it is passed over like a missing one. -/
theorem brings_untilTurn_meets {values : Array α}
    (hstop : b.min ≤ values.size → Gives q s pos fun u next =>
      (∀ v, keep u = some v → R (values.toList ++ [v]) next) ∧ (keep u = none → R values.toList pos))
    (hp : (∀ max ∈ b.max, values.size < max) → Gives p s pos fun v next => I (values.toList ++ [v]) next)
    (hagain : ∀ go ∈ again, ∀ values next seen, I values.toList next → Brings (go values next seen) (Step.Meets R))
    (seen : Option Furthest) :
    Brings (Parser.untilTurn b keep p q s again values pos seen) (Step.Meets R) := by
  by_cases hmin : b.min ≤ values.size
  · refine (hstop hmin).run.bind fun step hstep => ?_
    cases step with
    | success u next w =>
      simp only
      rw [if_pos hmin]
      cases hkeep : keep u with
      | some v =>
        have hend := hstep.1 v hkeep
        rw [← Array.toList_push] at hend
        exact .pure hend
      | none => exact .pure (hstep.2 hkeep)
    | fail r w => exact brings_untilItem_meets hp hagain _ _
    | error e => exact .pure trivial
  · refine (gives_true q s pos).run.bind fun step _ => ?_
    cases step with
    | success u next w =>
      simp only
      rw [if_neg hmin]
      exact brings_untilItem_meets hp hagain _ _
    | fail r w => exact brings_untilItem_meets hp hagain _ _
    | error e => exact .pure trivial

theorem brings_untilFrom_meets
    (hstop : ∀ vs pos, I vs pos → b.min ≤ vs.length → Gives q s pos fun u next =>
      (∀ v, keep u = some v → R (vs ++ [v]) next) ∧ (keep u = none → R vs pos))
    (hp : ∀ vs pos, I vs pos → (∀ max ∈ b.max, vs.length < max) → Gives p s pos fun v next => I (vs ++ [v]) next)
    {allowance : Nat} {values : Array α} (h : I values.toList pos) (seen : Option Furthest) :
    Brings (Parser.untilFrom b keep p q s allowance values pos seen) (Step.Meets R) := by
  have hturn {values : Array α} {pos : Nat} (h : I values.toList pos) := hstop values.toList pos h
  have hitem {values : Array α} {pos : Nat} (h : I values.toList pos) := hp values.toList pos h
  simp only [Array.length_toList] at hturn hitem
  induction allowance generalizing values pos seen with
  | zero =>
    refine brings_untilTurn_meets (hturn h) (hitem h) ?_ seen
    intro go hgo
    cases hgo
  | succ n ih =>
    refine brings_untilTurn_meets (hturn h) (hitem h) ?_ seen
    intro go hgo values next seen hnext
    obtain rfl := Option.mem_some.1 hgo
    exact ih hnext seen

theorem Gives.repeatUntil (budget : Nat)
    (hstop : ∀ vs pos, I vs pos → b.min ≤ vs.length → Gives q s pos fun u next =>
      (∀ v, keep u = some v → R (vs ++ [v]) next) ∧ (keep u = none → R vs pos))
    (hp : ∀ vs pos, I vs pos → (∀ max ∈ b.max, vs.length < max) → Gives p s pos fun v next => I (vs ++ [v]) next)
    (h : I [] pos) : Gives (Parser.repeatUntil budget b keep p q) s pos R :=
  brings_untilFrom_meets hstop hp h none

end Until

end Gives

end Descent
