import Descent.Grammar

/-!
# Rows of parts with different types

* `Tuple ts`: values of the types `ts`
* `Grammar.tuple`: a row of parts that need not have one type of values
* `Tuple.toList`: a tuple whose components have one type, as a list
* `Parser.tuple`: the row as one run through the parts, which hands the witness on from part to part
-/

namespace Descent

/-- Values of some types, as nested pairs. -/
def Tuple : List Type → Type
  | [] => Unit
  | [t] => t
  | t :: u :: ts => t × Tuple (u :: ts)

/-- The components of a tuple over one type. -/
def Tuple.toList {α : Type} : (n : Nat) → Tuple (List.replicate n α) → List α
  | 0, _ => []
  | 1, v => [v]
  | n + 2, v => v.1 :: toList (n + 1) v.2

/-- Grammars whose values have some types. -/
inductive Parts (ι : Type) [Item ι] (Γ : Nat → Type) : List Type → Type 1 where
  | nil : Parts ι Γ []
  | cons {t : Type} {ts : List Type} (g : Grammar ι Γ t) (rest : Parts ι Γ ts) : Parts ι Γ (t :: ts)

variable {ι : Type} [Item ι] {Γ : Nat → Type} {α : Type}

def Parts.ofList : (gs : List (Grammar ι Γ α)) → Parts ι Γ (List.replicate gs.length α)
  | [] => .nil
  | g :: gs => .cons g (ofList gs)

namespace Grammar

/-- All parts in a row, with a tuple of their values. -/
def tuple : {ts : List Type} → Parts ι Γ ts → Grammar ι Γ (Tuple ts)
  | [], .nil => succeed ()
  | [_], .cons g .nil => g
  | _ :: _ :: _, .cons g rest => zip g (tuple rest)

/-- All parts in a row, where the values have one type. -/
def tupleList (gs : List (Grammar ι Γ α)) : Grammar ι Γ (List α) :=
  map (Tuple.toList gs.length) (tuple (Parts.ofList gs))

end Grammar

/-! ## One part after another -/

/-- Parsers whose values have some types. -/
inductive Parsers (m : Type → Type) (ι : Type) [Item ι] : List Type → Type 1 where
  | nil : Parsers m ι []
  | cons {t : Type} {ts : List Type} (p : Parser m ι t) (rest : Parsers m ι ts) : Parsers m ι (t :: ts)

variable {m : Type → Type} [Monitor m]

/-- The parsers that some parts stand for. -/
def Parts.parsers [DecidableEq ι] (budget : Nat) (refs : (slot : Nat) → Parser m ι (Γ slot)) :
    {ts : List Type} → Parts ι Γ ts → Parsers m ι ts
  | _, .nil => .nil
  | _, .cons g rest => .cons (g.parser budget refs) (rest.parsers budget refs)

namespace Parser

/-- The rest of a row of parts with different types, after what was seen in those before. -/
def tupleFrom (s : Stream ι) : {ts : List Type} → Parsers m ι ts → Nat → Option Furthest → m (Step (Tuple ts))
  | [], .nil, pos, seen => pure (.success () pos seen)
  | [_], .cons p .nil, pos, seen => do
    let step ← run p s pos
    pure (step.aggregate seen)
  | _ :: _ :: _, .cons p rest, pos, seen => do
    match (← run p s pos).aggregate seen with
    | .success v next w => do
      let step ← tupleFrom s rest next w
      pure (step.map (Prod.mk v))
    | .fail q w => pure (.fail q w)
    | .error e => pure (.error e)

/-- All parts in a row, with a tuple of their values. -/
def tuple {ts : List Type} (ps : Parsers m ι ts) : Parser m ι (Tuple ts) := fun s pos => tupleFrom s ps pos none

end Parser

end Descent
