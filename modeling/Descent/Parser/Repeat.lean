import Descent.Bounds
import Descent.Parser

/-!
# Repetition

* `Parser.times`: an item again and again, as often as its bounds allow
* `Parser.repeatUntil`: an item again and again, up to a terminator

A repetition without a greatest number could go on for ever on an item that does not move; it stops with
`DefinitionError.emptyLoop` instead. An item that moves backwards can still go on for ever, so a repetition without
a greatest number also has a budget: the runs that it may make beyond the least number.
-/

namespace Descent.Parser

variable {m : Type → Type} [Monitor m] {ι α β : Type} [Item ι]

/-- Whether a repetition that has `count` items stands still: nothing would stop it from going on so for ever. -/
def stalls (b : Bounds) (count pos next : Nat) : Bool := next == pos && b.max.isNone && b.min ≤ count

/-- The end of a repetition that takes no more items. -/
def timesEnd (b : Bounds) (values : Array α) (pos : Nat) (seen : Option Furthest) : m (Step (List α)) :=
  if values.size < b.min then do
    let step ← fails (.of pos s!"at least {b.min} items")
    pure (step.aggregate seen)
  else pure (.success values.toList pos seen)

/-- The rest of a repetition that may run its item `allowance` times more. -/
def timesFrom (b : Bounds) (p : Parser m ι α) (s : Stream ι) :
    (allowance : Nat) → Array α → Nat → Option Furthest → m (Step (List α))
  | 0, values, pos, seen => if b.max.isNone then giveUp else timesEnd b values pos seen
  | n + 1, values, pos, seen => do
    match ← run p s pos with
    | .success v next w =>
      if stalls b values.size pos next then raises (.emptyLoop pos)
      else timesFrom b p s n (values.push v) next (Furthest.merge seen w)
    | .fail q w =>
      if values.size < b.min then pure (.fail q (w.absorb seen))
      else timesEnd b values pos (Furthest.merge seen (some w))
    | .error e => pure (.error e)

/-- An item as often as the bounds allow. -/
def times (budget : Nat) (b : Bounds) (p : Parser m ι α) : Parser m ι (List α) := fun s pos =>
  timesFrom b p s (b.allowance budget) #[] pos none

/-! ## Up to a terminator -/

/-- The item's turn in a repetition up to a terminator, which was missed for the reason `missed`. Where `again` is
missing the budget is spent. -/
def untilItem (b : Bounds) (p : Parser m ι α) (s : Stream ι)
    (again : Option (Array α → Nat → Option Furthest → m (Step (List α)))) (missed : Option Furthest)
    (values : Array α) (pos : Nat) (seen : Option Furthest) : m (Step (List α)) :=
  match b.max.filter (· ≤ values.size), again with
  | some max, _ => fails (.of pos s!"at most {max} items")
  | none, none => giveUp
  | none, some again => do
    match ← run p s pos with
    | .success v next w =>
      if stalls b values.size pos next then raises (.emptyLoop pos)
      else again (values.push v) next (Furthest.merge seen w)
    | .fail q w =>
      if b.min ≤ values.size then pure (.fail q ((w.absorb missed).absorb seen))
      else fails (.of pos s!"at least {b.min} items; got {values.size} item(s)")
    | .error e => pure (.error e)

/-- One turn of a repetition up to a terminator, which is tried before the item. -/
def untilTurn (b : Bounds) (keep : β → Option α) (p : Parser m ι α) (stop : Parser m ι β) (s : Stream ι)
    (again : Option (Array α → Nat → Option Furthest → m (Step (List α)))) (values : Array α) (pos : Nat)
    (seen : Option Furthest) : m (Step (List α)) := do
  match ← run stop s pos with
  | .success u next w =>
    if b.min ≤ values.size then
      match keep u with
      | some v => pure (.success (values.push v).toList next (Furthest.merge seen w))
      | none => pure (.success values.toList pos (Furthest.merge seen w))
    else untilItem b p s again none values pos seen
  | .fail _ w => untilItem b p s again (some w) values pos seen
  | .error e => pure (.error e)

/-- The rest of a repetition up to a terminator that may run its item `allowance` times more. -/
def untilFrom (b : Bounds) (keep : β → Option α) (p : Parser m ι α) (stop : Parser m ι β) (s : Stream ι) :
    (allowance : Nat) → Array α → Nat → Option Furthest → m (Step (List α))
  | 0, values, pos, seen => untilTurn b keep p stop s none values pos seen
  | n + 1, values, pos, seen => untilTurn b keep p stop s (some (untilFrom b keep p stop s n)) values pos seen

/-- An item until a terminator succeeds, which it may from the least number of items on. The terminator's value
joins the others, and its text is passed over, when `keep` makes an item of it; otherwise it stays unread. -/
def repeatUntil (budget : Nat) (b : Bounds) (keep : β → Option α) (p : Parser m ι α) (stop : Parser m ι β) :
    Parser m ι (List α) := fun s pos =>
  untilFrom b keep p stop s (b.allowance budget) #[] pos none

end Descent.Parser
