import Descent.Proofs.Budget
import Descent.Proofs.Parallel
import Descent.Proofs.Semilattice

/-!
# Routines unfold into grammars

A routine that stops does what the grammar does that it unfolds into: a value that it asks for is bound, and the next
turn made of it (`Grammar.unfolding`). Such a grammar only goes so deep, and has `bottom` below; it stands for the
routine where it does not matter what `bottom` is, however deep one goes (`routines_unfold`).

The loop that runs a routine collects what was seen from the first turn on, the nested grammars from the last one
back. With a bottom that never comes back (`Grammar.endless`) the two are the same turn by turn, at every depth and with
whatever was seen before (`generateFrom_eq_unfolding`).

That a second run starts from the first state again is so of every grammar (`comesTo_runTwice`).
-/

namespace Descent

variable {ι : Type} [Item ι] {Γ : Nat → Type} {ρ α β : Type}

/-- A routine: what it does in a state, with the value that it has asked for. -/
abbrev Routine (ι : Type) [Item ι] (Γ : Nat → Type) (ρ α β : Type) : Type 1 :=
  ρ → Option α → ρ × Next (Grammar ι Γ α) (Grammar ι Γ β) β

namespace Grammar

/-- The grammar that a routine unfolds into from a state on, as many turns deep as given, with `bottom` below. -/
def unfolding (bottom : Grammar ι Γ β) (turn : Routine ι Γ ρ α β) : (depth : Nat) → ρ → Option α → Grammar ι Γ β
  | 0, _, _ => bottom
  | n + 1, state, last =>
    match turn state last with
    | (state', .ask g) => bind g fun v => unfolding bottom turn n state' (some v)
    | (_, .answer v) => succeed v
    | (_, .handOver g) => g

def endless : Grammar ι Γ β := generate () fun _ (_ : Option Unit) => ((), .ask (succeed ()))

end Grammar

section Plain

variable [DecidableEq ι] {budget : Nat} {refs : (slot : Nat) → Parser Option ι (Γ slot)} {turn : Routine ι Γ ρ α β}
  {s : Stream ι}

def Next.parsers (budget : Nat) (refs : (slot : Nat) → Parser Option ι (Γ slot)) :
    Next (Grammar ι Γ α) (Grammar ι Γ β) β → Next (Parser Option ι α) (Parser Option ι β) β
  | ask g => .ask (g.parser budget refs)
  | answer v => .answer v
  | handOver g => .handOver (g.parser budget refs)

def Routine.parsers (budget : Nat) (refs : (slot : Nat) → Parser Option ι (Γ slot)) (turn : Routine ι Γ ρ α β) :
    ρ → Option α → ρ × Next (Parser Option ι α) (Parser Option ι β) β :=
  fun state last => ((turn state last).1, (turn state last).2.parsers budget refs)

theorem Grammar.parser_generate (start : ρ) :
    (Grammar.generate start turn).parser budget refs
      = Parser.generate budget start (Routine.parsers budget refs turn) := by
  rw [generate, parser]
  refine congrArg (Parser.generate budget start) (funext fun state => funext fun last => ?_)
  rw [Routine.parsers]
  rcases turn state last with ⟨state', next⟩
  cases next <;> rfl

theorem Grammar.parser_endless (pos : Nat) : (endless : Grammar ι Γ β).parser budget refs s pos = none := by
  have hloop (n : Nat) (last : Option Unit) (seen : Option Furthest) :
      Parser.generateFrom (Routine.parsers budget refs fun (_ : Unit) (_ : Option Unit) =>
        ((), (.ask (succeed ()) : Next (Grammar ι Γ Unit) (Grammar ι Γ β) β))) s n () last pos seen = none := by
    induction n generalizing last seen with
    | zero => rfl
    | succ n ih => exact ih (some ()) _
  rw [endless, parser_generate]
  exact hloop budget none none

/-- The loop does what the nested grammars do, with what was seen before its turns added. -/
theorem generateFrom_eq_unfolding (n : Nat) (state : ρ) (last : Option α) (pos : Nat) (seen : Option Furthest) :
    Parser.generateFrom (Routine.parsers budget refs turn) s n state last pos seen
      = ((Grammar.unfolding .endless turn n state last).parser budget refs s pos).map (Step.aggregate seen) := by
  induction n generalizing state last pos seen with
  | zero =>
    rw [Grammar.unfolding, Grammar.parser_endless]
    rfl
  | succ n ih =>
    rw [Parser.generateFrom, Grammar.unfolding, Routine.parsers]
    rcases turn state last with ⟨state', next⟩
    cases next with
    | ask g =>
      simp only [Next.parsers, Grammar.parser, Parser.bind, Parser.run_plain]
      cases g.parser budget refs s pos with
      | none => rfl
      | some step =>
        cases step with
        | success v next w =>
          simp only [Option.bind_eq_bind, Option.bind_some, ih]
          cases (Grammar.unfolding .endless turn n state' (some v)).parser budget refs s next with
          | none => rfl
          -- The loop merges what was seen on the way in, the nested grammars add it on the way out.
          | some step' => exact congrArg some (Step.aggregate_aggregate step' w seen).symm
        | fail q w => rfl
        | error e => rfl
    | answer v =>
      simp only [Grammar.succeed, Grammar.parser_leaf]
      rfl
    | handOver g =>
      simp only [Next.parsers, Parser.run_plain]
      cases g.parser budget refs s pos <;> rfl

theorem unfolding_below (bottom : Grammar ι Γ β) {n n' : Nat} (hn : n ≤ n') (state : ρ) (last : Option α) :
    AllBelow ((Grammar.unfolding .endless turn n state last).parser budget refs)
      ((Grammar.unfolding bottom turn n' state last).parser budget refs) := by
  induction n generalizing n' state last with
  | zero =>
    intro s pos
    rw [Grammar.unfolding, Grammar.parser_endless]
    exact .giveUp _
  | succ n ih =>
    obtain ⟨k, rfl⟩ : ∃ k, n' = k + 1 := ⟨n' - 1, by omega⟩
    rw [Grammar.unfolding, Grammar.unfolding]
    rcases turn state last with ⟨state', next⟩
    cases next with
    | ask g => exact AllBelow.bind (fun s pos => .refl _) fun v => ih (by omega) state' (some v)
    | answer v => exact fun s pos => .refl _
    | handOver g => exact fun s pos => .refl _

end Plain

/-! ## Runs of routines -/

variable [DecidableEq ι] {d : Declarations ι Γ} {turn : Routine ι Γ ρ α β} {start : ρ}

/-- Whether a routine, unfolded deep enough, comes to a step. -/
def UnfoldsTo (d : Declarations ι Γ) (turn : Routine ι Γ ρ α β) (start : ρ) (s : Stream ι) (pos : Nat)
    (step : Step β) : Prop :=
  ∃ enough, ∀ depth, enough ≤ depth → ∀ bottom, d.ComesTo (.unfolding bottom turn depth start none) s pos step

theorem runAt_generate (budget : Nat) (s : Stream ι) (pos : Nat) :
    (d.runAt budget (.generate start turn) s pos : Option (Step β))
      = (d.runAt budget (.unfolding .endless turn budget start none) s pos : Option (Step β)) := by
  simp only [Declarations.runAt, Declarations.parser, Parser.run_plain, Grammar.parser_generate, Parser.generate,
    generateFrom_eq_unfolding]
  cases ((Grammar.unfolding .endless turn budget start none).parser budget (d.call budget) s pos :
      Option (Step β)) with
  | none => rfl
  | some step => exact congrArg some step.aggregate_none

theorem runAt_unfolding_mono {budget depth depth' : Nat} (hdepth : depth ≤ depth') (bottom : Grammar ι Γ β)
    {s : Stream ι} {pos : Nat} {step : Step β}
    (h : d.runAt budget (.unfolding .endless turn depth start none) s pos = some step) :
    d.runAt budget (.unfolding bottom turn depth' start none) s pos = some step :=
  (unfolding_below bottom hdepth start none).run s pos step h

theorem comesTo_generate {s : Stream ι} {pos : Nat} {step : Step β} :
    d.ComesTo (.generate start turn) s pos step ↔ UnfoldsTo d turn start s pos step := by
  constructor
  · intro h
    obtain ⟨n, hrun⟩ := Declarations.comesTo_iff.1 h
    rw [runAt_generate] at hrun
    exact ⟨n, fun depth hdepth bottom => Declarations.comesTo_of_runAt (runAt_unfolding_mono hdepth bottom hrun)⟩
  · rintro ⟨k, hunfolds⟩
    obtain ⟨n, hrun⟩ := Declarations.comesTo_iff.1 (hunfolds k (Nat.le_refl k) .endless)
    have hlarge := Declarations.runAt_mono (Nat.le_max_left n k) hrun
    refine Declarations.comesTo_of_runAt (n := max n k) ?_
    rw [runAt_generate]
    exact runAt_unfolding_mono (Nat.le_max_right n k) .endless hlarge

/-! ## Two runs in a row -/

/-- A grammar run twice, on two streams, in one recorded run. -/
def runTwice (d : Declarations ι Γ) (budget : Nat) (g : Grammar ι Γ β) (s : Stream ι) (pos : Nat) (s' : Stream ι)
    (pos' : Nat) : Recorded (Step β × Step β) := do
  let step ← d.runAt budget g s pos
  let step' ← d.runAt budget g s' pos'
  pure (step, step')

section Twice

variable {g : Grammar ι Γ β} {s s' : Stream ι} {pos pos' : Nat} {step step' : Step β}

theorem runTwice_iff {budget : Nat} :
    (∃ events, runTwice d budget g s pos s' pos' #[] = some ((step, step'), events)) ↔
      d.runAt budget g s pos = some step ∧ d.runAt budget g s' pos' = some step' := by
  have htwice : runTwice d budget g s pos s' pos' #[]
      = ((d.runAt budget g s pos : Recorded (Step β)) #[]).bind fun first =>
        ((d.runAt budget g s' pos' : Recorded (Step β)) first.2).bind fun second =>
          some ((first.1, second.1), second.2) := rfl
  rw [htwice, runAt_recorded]
  cases hfirst : (d.runAt budget g s pos : Option (Step β)) with
  | none => simp
  | some a =>
    simp only [Option.map_some, Option.bind_some, runAt_recorded]
    cases hsecond : (d.runAt budget g s' pos' : Option (Step β)) with
    | none => simp
    | some b => simp

/-- No grammar keeps anything from one run to the next. -/
theorem comesTo_runTwice :
    (∃ n, ∀ budget, n ≤ budget → ∃ events, runTwice d budget g s pos s' pos' #[] = some ((step, step'), events)) ↔
      d.ComesTo g s pos step ∧ d.ComesTo g s' pos' step' := by
  simp only [runTwice_iff]
  constructor
  · rintro ⟨n, hboth⟩
    exact ⟨⟨n, fun budget hn => (hboth budget hn).1⟩, ⟨n, fun budget hn => (hboth budget hn).2⟩⟩
  · rintro ⟨⟨n, hfirst⟩, ⟨n', hsecond⟩⟩
    exact ⟨max n n', fun budget hn =>
      ⟨hfirst budget (Nat.le_trans (Nat.le_max_left n n') hn),
        hsecond budget (Nat.le_trans (Nat.le_max_right n n') hn)⟩⟩

end Twice

/-- **Routines unfold.** A routine comes to the step that it unfolds to, from its first state on. A second run in a row
does so, too: this is not special about routines, but holds since they are grammars, whose runs keep nothing. -/
theorem routines_unfold (d : Declarations ι Γ) (turn : Routine ι Γ ρ α β) (start : ρ) (s : Stream ι) (pos : Nat)
    (step : Step β) :
    (d.ComesTo (.generate start turn) s pos step ↔ UnfoldsTo d turn start s pos step) ∧
    ∀ s' pos' step',
      (∃ n, ∀ budget, n ≤ budget → ∃ events,
        runTwice d budget (.generate start turn) s pos s' pos' #[] = some ((step, step'), events)) ↔
      UnfoldsTo d turn start s pos step ∧ UnfoldsTo d turn start s' pos' step' := by
  refine ⟨comesTo_generate, fun s' pos' step' => ?_⟩
  rw [comesTo_runTwice, comesTo_generate, comesTo_generate]

end Descent
