import Descent.Grammar

/-!
# Forward declarations

* `Declarations ι Γ`: slots that are declared first and resolved to grammars later, each once
* `Declarations.declare`, `resolve`, `isResolved`
* `Declarations.parser`: the parser of a grammar whose references are looked up when they are run

A reference to a slot may stand in the grammar that the slot is resolved to. Running a grammar has a budget, which each
reference on the way down uses up a part of, so that a grammar that calls itself without end gives up.
-/

namespace Descent

/-- Slots, and the grammars that some of them have been resolved to. -/
structure Declarations (ι : Type) [Item ι] (Γ : Nat → Type) where
  /-- The number of slots declared. -/
  count : Nat
  body? : (slot : Nat) → Option (Grammar ι Γ (Γ slot))

namespace Declarations

variable {ι : Type} [Item ι] {Γ : Nat → Type} {α : Type}

def none : Declarations ι Γ := ⟨0, fun _ => .none⟩

instance : Inhabited (Declarations ι Γ) := ⟨none⟩

/-- A fresh slot. -/
def declare (d : Declarations ι Γ) : Nat × Declarations ι Γ := (d.count, { d with count := d.count + 1 })

def isResolved (d : Declarations ι Γ) (slot : Nat) : Bool := (d.body? slot).isSome

/-- Resolves a slot, unless that has been done before. -/
def resolve (d : Declarations ι Γ) (slot : Nat) (g : Grammar ι Γ (Γ slot)) :
    Except DefinitionError (Declarations ι Γ) :=
  if d.isResolved slot then .error .alreadyResolved
  else .ok { d with body? := fun k => if h : k = slot then some (h ▸ g) else d.body? k }

/-! ## Running -/

variable {m : Type → Type} [Monitor m] [DecidableEq ι]

/-- The parser that a reference stands for, with `budget` references left on the way down. -/
def call (d : Declarations ι Γ) : (budget : Nat) → (slot : Nat) → Parser m ι (Γ slot)
  | budget, slot => fun s pos =>
    match d.body? slot, budget with
    | .none, _ => Parser.raises .unresolved
    | some _, 0 => giveUp
    | some g, n + 1 => Parser.run (g.parser n (call d n)) s pos

section Call

variable {d : Declarations ι Γ} {slot : Nat} {g : Grammar ι Γ (Γ slot)} {s : Stream ι} {pos : Nat}

theorem call_of_none (hbody : d.body? slot = .none) (budget : Nat) :
    (d.call budget slot s pos : m (Step (Γ slot))) = Parser.raises .unresolved := by
  cases budget <;> simp only [call, hbody]

theorem call_zero (hbody : d.body? slot = some g) : (d.call 0 slot s pos : m (Step (Γ slot))) = giveUp := by
  simp only [call, hbody]

theorem call_succ (hbody : d.body? slot = some g) (n : Nat) :
    (d.call (n + 1) slot s pos : m (Step (Γ slot))) = Parser.run (g.parser n (d.call n)) s pos := by
  simp only [call, hbody]

end Call

/-- The parser of a grammar. -/
def parser (d : Declarations ι Γ) (budget : Nat) (g : Grammar ι Γ α) : Parser m ι α :=
  g.parser budget (d.call budget)

end Declarations

end Descent
