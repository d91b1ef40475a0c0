import Descent.Parser

/-!
# Routines

* `Next`: what a routine does next
* `Parser.generate`: runs a routine that asks for one parser after another

A routine is a state machine. It is handed the value of the parser that it asked for last, and nothing at first.
It may ask for any number of parsers, so a run has a budget of turns.
-/

namespace Descent

universe u v

/-- What a routine does next: ask for a value, answer with its result, or leave the rest to a parser. -/
inductive Next (P Q : Type u) (β : Type v) where
  | ask (p : P)
  | answer (v : β)
  | handOver (q : Q)

namespace Parser

variable {m : Type → Type} [Monitor m] {ι ρ α β : Type} [Item ι]

/-- The rest of a routine's run. -/
def generateFrom (turn : ρ → Option α → ρ × Next (Parser m ι α) (Parser m ι β) β) (s : Stream ι) :
    (budget : Nat) → ρ → Option α → Nat → Option Furthest → m (Step β)
  | 0, _, _, _, _ => giveUp
  | n + 1, state, last, pos, seen =>
    match turn state last with
    | (state', .ask p) => do
      match ← run p s pos with
      | .success v next w => generateFrom turn s n state' (some v) next (Furthest.merge seen w)
      | .fail q w => pure (.fail q (w.absorb seen))
      | .error e => pure (.error e)
    | (_, .answer v) => pure (.success v pos seen)
    | (_, .handOver q) => do
      let step ← run q s pos
      pure (step.aggregate seen)

/-- Runs a routine from its first state. -/
def generate (budget : Nat) (start : ρ) (turn : ρ → Option α → ρ × Next (Parser m ι α) (Parser m ι β) β) :
    Parser m ι β := fun s pos =>
  generateFrom turn s budget start none pos none

end Parser

end Descent
