import Descent.Unicode.CodeSet

/-!
# Reading tables of values

* `Table.runs`: a value for every code point, as runs that begin at some code points
* `Table.labelled`: ranges with labels
* `Table.spellings`: names with the names that they stand for
-/

namespace Descent.Table

/-- The two halves of a word around a mark. -/
def cut (mark : Char) (word : List Char) : List Char × List Char :=
  let first := word.takeWhile (· ≠ mark)
  (first, word.drop (first.length + 1))

/-- The pieces of a word between commas. -/
def pieces (word : List Char) : List String :=
  let step (acc : List String × List Char) (c : Char) : List String × List Char :=
    if c = ',' then (String.ofList acc.2.reverse :: acc.1, []) else (acc.1, c :: acc.2)
  let (done, last) := word.foldl step ([], [])
  (String.ofList last.reverse :: done).reverse

/-- Runs as a table writes them: a first code point in hexadecimal, a comma, and the value. -/
def runs (s : String) : List (Nat × String) :=
  (CodeSet.wordsOf s).map fun w => let (n, value) := cut ',' w; (CodeSet.hexValue n, String.ofList value)

/-- Ranges as a table writes them: the range, a colon, and labels between commas. -/
def labelled (s : String) : List ((Nat × Nat) × List String) :=
  (CodeSet.wordsOf s).map fun w => let (range, labels) := cut ':' w; (CodeSet.rangeOf range, pieces labels)

/-- Names as a table writes them: a spelling, a colon, and what it stands for. -/
def spellings (s : String) : List (String × String) :=
  (CodeSet.wordsOf s).map fun w => let (short, long) := cut ':' w; (String.ofList short, String.ofList long)

/-- The ranges whose value passes a test. -/
def rangesOf (keep : String → Bool) : List (Nat × String) → List (Nat × Nat)
  | [] => []
  | [(a, value)] => if keep value then [(a, CodeSet.lastChar)] else []
  | (a, value) :: (b, value') :: rest =>
    if keep value then (a, b - 1) :: rangesOf keep ((b, value') :: rest) else rangesOf keep ((b, value') :: rest)

/-- All code points whose value passes a test. -/
def members (rs : List (Nat × String)) (keep : String → Bool) : CodeSet := .ofRanges (rangesOf keep rs)

end Descent.Table
