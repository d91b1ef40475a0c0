/-!
# Sets of code points

* `CodeSet`: a set of numbers kept as increasing, disjoint ranges with both ends included
* `CodeSet.ofRanges` puts any list of ranges into that form
* `CodeSet.ofText` reads ranges written in hexadecimal, as the property tables write them
* `CodeSet.contains` looks a number up in logarithmic time
-/

namespace Descent

/-- A set of numbers as increasing, disjoint ranges, both ends included. -/
structure CodeSet where
  ranges : Array (Nat × Nat)
  deriving Repr, DecidableEq, Inhabited

namespace CodeSet

def empty : CodeSet := ⟨#[]⟩

def isEmpty (s : CodeSet) : Bool := s.ranges.isEmpty

/-- The largest code point. -/
def lastChar : Nat := 0x10ffff

/-- The largest byte. -/
def lastByte : Nat := 0xff

/-! ## Building -/

/-- Joins ranges that overlap or touch, in a list ordered by first element. -/
def joinSorted : List (Nat × Nat) → List (Nat × Nat)
  | [] => []
  | [r] => [r]
  | (a, b) :: (c, d) :: rest =>
    if c ≤ b + 1 then joinSorted ((a, max b d) :: rest) else (a, b) :: joinSorted ((c, d) :: rest)
termination_by rs => rs.length

/-- Any ranges, in any order; a range whose end comes before its start is no range. -/
def ofRanges (rs : List (Nat × Nat)) : CodeSet :=
  ⟨(joinSorted ((rs.filter fun r => r.1 ≤ r.2).mergeSort fun x y => x.1 ≤ y.1)).toArray⟩

def single (n : Nat) : CodeSet := ⟨#[(n, n)]⟩

def range (a b : Nat) : CodeSet := ofRanges [(a, b)]

def ofMembers (ns : List Nat) : CodeSet := ofRanges (ns.map fun n => (n, n))

/-! ## Looking up -/

/-- The range that holds `n`, among those with an index in `[lo, hi)`. -/
def findRange (rs : Array (Nat × Nat)) (n lo hi : Nat) : Option (Nat × Nat) :=
  if lo < hi then
    let mid := (lo + hi) / 2
    match rs[mid]? with
    | none => none
    | some r =>
      if n < r.1 then findRange rs n lo mid
      else if r.2 < n then findRange rs n (mid + 1) hi
      else some r
  else none
termination_by hi - lo

def contains (s : CodeSet) (n : Nat) : Bool := (findRange s.ranges n 0 s.ranges.size).isSome

def hasChar (s : CodeSet) (c : Char) : Bool := s.contains c.toNat

/-! ## Set operations -/

def union (s t : CodeSet) : CodeSet := ofRanges (s.ranges.toList ++ t.ranges.toList)

def unions (ss : List CodeSet) : CodeSet := ofRanges (ss.flatMap fun s => s.ranges.toList)

def isAscii (s : CodeSet) : Bool := s.ranges.all fun r => r.2 < 128

/-- Ranges that neither begin nor end with a surrogate, which is no character. -/
def withoutSurrogateEnds (s : CodeSet) : CodeSet :=
  let isSurrogate (n : Nat) : Bool := 0xd800 ≤ n && n ≤ 0xdfff
  let inner (r : Nat × Nat) : Nat × Nat :=
    (if isSurrogate r.1 then 0xe000 else r.1, if isSurrogate r.2 then 0xd7ff else r.2)
  ⟨(s.ranges.map inner).filter fun r => r.1 ≤ r.2⟩

/-- The gaps between ordered ranges, from `next` up to `last`. -/
def gaps (last : Nat) : Nat → List (Nat × Nat) → List (Nat × Nat)
  | next, [] => if next ≤ last then [(next, last)] else []
  | next, (a, b) :: rest => if next < a then (next, a - 1) :: gaps last (b + 1) rest else gaps last (b + 1) rest

/-- What of `[0, last]` is not in the set. -/
def complement (last : Nat) (s : CodeSet) : CodeSet := ⟨(gaps last 0 s.ranges.toList).toArray⟩

def inter (last : Nat) (s t : CodeSet) : CodeSet :=
  ((s.complement last).union (t.complement last)).complement last

def diff (last : Nat) (s t : CodeSet) : CodeSet := s.inter last (t.complement last)

def symmDiff (last : Nat) (s t : CodeSet) : CodeSet := (s.diff last t).union (t.diff last s)

/-! ## Reading tables -/

/-- The value of a hexadecimal digit in lower case. -/
def hexDigit? (c : Char) : Option Nat :=
  if '0' ≤ c ∧ c ≤ '9' then some (c.toNat - 48)
  else if 'a' ≤ c ∧ c ≤ 'f' then some (c.toNat - 87)
  else none

def hexValue (s : List Char) : Nat := s.foldl (fun n c => 16 * n + (hexDigit? c).getD 0) 0

/-- The words of a text, cut at blanks and line ends. -/
def wordsOf (s : String) : List (List Char) :=
  let step (acc : List (List Char) × List Char) (c : Char) : List (List Char) × List Char :=
    if c = ' ' ∨ c = '\n' then
      if acc.2.isEmpty then acc else (acc.2.reverse :: acc.1, [])
    else (acc.1, c :: acc.2)
  let (done, last) := s.toList.foldl step ([], [])
  (if last.isEmpty then done else last.reverse :: done).reverse

/-- One range as a table writes it: `41-5a`, or `aa` for a single number. -/
def rangeOf (word : List Char) : Nat × Nat :=
  let first := word.takeWhile (· ≠ '-')
  match word.drop (first.length + 1) with
  | [] => (hexValue first, hexValue first)
  | last => (hexValue first, hexValue last)

/-- The set whose ranges a table lists in order. -/
def ofText (s : String) : CodeSet := ⟨((wordsOf s).map rangeOf).toArray⟩

end CodeSet

end Descent
