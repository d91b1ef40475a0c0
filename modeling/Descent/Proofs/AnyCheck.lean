import Descent.Parser.Repeat

/-!
# Repetitions with any check

A repetition without a greatest number checks each of its turns for progress (`Parser.stalls`). In `timesWith` and
`untilWith` the check is a parameter. With `stalls b` they are the repetitions themselves (`timesFrom_eq_timesWith`,
`untilFrom_eq_untilWith`), and with `TurnCheck.never` they are the same repetitions without a check.
-/

namespace Descent.Parser

variable {m : Type → Type} [Monitor m] {ι α β : Type} [Item ι]

/-- Whether a repetition gives up after a turn from `pos` to `next` that found `count` items there. -/
abbrev TurnCheck : Type := (count pos next : Nat) → Bool

def TurnCheck.never : TurnCheck := fun _ _ _ => false

/-- The rest of a repetition that may run its item `allowance` times more, with a check of each turn. -/
def timesWith (check : TurnCheck) (b : Bounds) (p : Parser m ι α) (s : Stream ι) :
    (allowance : Nat) → Array α → Nat → Option Furthest → m (Step (List α))
  | 0, values, pos, seen => if b.max.isNone then giveUp else timesEnd b values pos seen
  | n + 1, values, pos, seen => do
    match ← run p s pos with
    | .success v next w =>
      if check values.size pos next then raises (.emptyLoop pos)
      else timesWith check b p s n (values.push v) next (Furthest.merge seen w)
    | .fail q w =>
      if values.size < b.min then pure (.fail q (w.absorb seen))
      else timesEnd b values pos (Furthest.merge seen (some w))
    | .error e => pure (.error e)

def untilItemWith (check : TurnCheck) (b : Bounds) (p : Parser m ι α) (s : Stream ι)
    (again : Option (Array α → Nat → Option Furthest → m (Step (List α)))) (missed : Option Furthest)
    (values : Array α) (pos : Nat) (seen : Option Furthest) : m (Step (List α)) :=
  match b.max.filter (· ≤ values.size), again with
  | some max, _ => fails (.of pos s!"at most {max} items")
  | none, none => giveUp
  | none, some again => do
    match ← run p s pos with
    | .success v next w =>
      if check values.size pos next then raises (.emptyLoop pos)
      else again (values.push v) next (Furthest.merge seen w)
    | .fail q w =>
      if b.min ≤ values.size then pure (.fail q ((w.absorb missed).absorb seen))
      else fails (.of pos s!"at least {b.min} items; got {values.size} item(s)")
    | .error e => pure (.error e)

def untilTurnWith (check : TurnCheck) (b : Bounds) (keep : β → Option α) (p : Parser m ι α) (stop : Parser m ι β)
    (s : Stream ι) (again : Option (Array α → Nat → Option Furthest → m (Step (List α)))) (values : Array α)
    (pos : Nat) (seen : Option Furthest) : m (Step (List α)) := do
  match ← run stop s pos with
  | .success u next w =>
    if b.min ≤ values.size then
      match keep u with
      | some v => pure (.success (values.push v).toList next (Furthest.merge seen w))
      | none => pure (.success values.toList pos (Furthest.merge seen w))
    else untilItemWith check b p s again none values pos seen
  | .fail _ w => untilItemWith check b p s again (some w) values pos seen
  | .error e => pure (.error e)

/-- The rest of a repetition up to a terminator that may run its item `allowance` times more, with a check of each
turn. -/
def untilWith (check : TurnCheck) (b : Bounds) (keep : β → Option α) (p : Parser m ι α) (stop : Parser m ι β)
    (s : Stream ι) : (allowance : Nat) → Array α → Nat → Option Furthest → m (Step (List α))
  | 0, values, pos, seen => untilTurnWith check b keep p stop s none values pos seen
  | n + 1, values, pos, seen =>
    untilTurnWith check b keep p stop s (some (untilWith check b keep p stop s n)) values pos seen

/-! ## With the check for progress -/

variable {b : Bounds} {p : Parser m ι α} {s : Stream ι}

theorem timesFrom_eq_timesWith (allowance : Nat) (values : Array α) (pos : Nat) (seen : Option Furthest) :
    timesFrom b p s allowance values pos seen = timesWith (stalls b) b p s allowance values pos seen := by
  induction allowance generalizing values pos seen with
  | zero => rfl
  | succ n ih =>
    rw [timesFrom]
    simp only [ih]
    rfl

theorem untilFrom_eq_untilWith {keep : β → Option α} {stop : Parser m ι β} (allowance : Nat) (values : Array α)
    (pos : Nat) (seen : Option Furthest) :
    untilFrom b keep p stop s allowance values pos seen
      = untilWith (stalls b) b keep p stop s allowance values pos seen := by
  have hitem (again missed) (values : Array α) (pos seen) :
      untilItem b p s again missed values pos seen
        = untilItemWith (stalls b) b p s again missed values pos seen := rfl
  have hturn (again) (values : Array α) (pos seen) :
      untilTurn b keep p stop s again values pos seen
        = untilTurnWith (stalls b) b keep p stop s again values pos seen := by
    rw [untilTurn]
    simp only [hitem]
    rfl
  induction allowance generalizing values pos seen with
  | zero => exact hturn none values pos seen
  | succ n ih =>
    have hrest : untilFrom b keep p stop s n = untilWith (stalls b) b keep p stop s n :=
      funext fun values => funext fun pos => funext fun seen => ih values pos seen
    rw [untilFrom, untilWith, hturn, hrest]

end Descent.Parser
