/-!
# Positions

* `Position`: an offset into a stream, with its line and column where the stream has lines
* positions are ordered by offset, then by line and column, with the missing ones first
-/

namespace Descent

/-- An offset, and its line and column where the stream has lines, all counted from zero. -/
structure Position where
  offset : Nat
  lineCol : Option (Nat × Nat)
  deriving DecidableEq, Repr, Inhabited

namespace Position

def line (p : Position) : Option Nat := p.lineCol.map (·.1)

def column (p : Position) : Option Nat := p.lineCol.map (·.2)

/-- The line and column when they are known, else the offset. -/
def text (p : Position) : String :=
  match p.lineCol with
  | some (line, column) => s!"{line}:{column}"
  | none => toString p.offset

/-- Lexicographic order of lines and columns, with a missing one before all others. -/
def lineColLE : Option (Nat × Nat) → Option (Nat × Nat) → Bool
  | none, _ => true
  | some _, none => false
  | some (l, c), some (l', c') => l < l' || (l == l' && c ≤ c')

/-- Order by offset, then by line and column. -/
def le (p q : Position) : Bool :=
  p.offset < q.offset || (p.offset == q.offset && lineColLE p.lineCol q.lineCol)

/-- Positions in increasing order; equal ones keep their places. -/
def sort (ps : List Position) : List Position := ps.mergeSort le

end Position

end Descent
