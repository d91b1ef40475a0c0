import Descent.Declarations
import Descent.Grammar.Text

/-!
# Nested brackets

* `Declarations.brackets`: two declarations that refer to each other, a list of items in brackets and an item, which is
  another list or an `x`; the value of a list is the number of lists inside
-/

namespace Descent

namespace Grammar

/-- A list: items, given by a declaration, between brackets. -/
def bracketList (item : Nat) : Grammar Char (fun _ => Nat) Nat :=
  map (List.foldl (· + ·) 0) (skip (andThen (literal "[") (many (ref item))) (literal "]"))

/-- An item: a list, given by a declaration, or an `x`. -/
def bracketItem (list : Nat) : Grammar Char (fun _ => Nat) Nat :=
  or (map (· + 1) (ref list)) (result (literal "x") 0)

end Grammar

namespace Declarations

/-- A list in the first slot, an item in the second one. -/
def brackets : Declarations Char (fun _ => Nat) where
  count := 2
  body?
    | 0 => some (Grammar.bracketList 1)
    | 1 => some (Grammar.bracketItem 0)
    | _ => .none

/-- Both declarations are made before either is resolved. -/
theorem resolve_brackets :
    (let (list, d) := (none : Declarations Char (fun _ => Nat)).declare
    let (item, d) := d.declare
    (d.resolve list (Grammar.bracketList item)).bind fun d => d.resolve item (Grammar.bracketItem list))
      = .ok brackets := by
  refine congrArg (fun body? => Except.ok (mk 2 body?)) (funext fun slot => ?_)
  match slot with
  | 0 => rfl
  | 1 => rfl
  | n + 2 => rfl

end Declarations

end Descent
