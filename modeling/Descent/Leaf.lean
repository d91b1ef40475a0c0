import Descent.Step
import Descent.Stream

/-!
# Leaves

* `Matcher ι`: a compiled pattern over streams of `ι`, which ends its matches at boundaries
* `Leaf ι α`: the parsers that grammars are built from
* `Leaf.step`: what a leaf comes back with
-/

namespace Descent

/-- A match of a pattern: where it ends, and the spans of the groups that took part, the whole match being group 0. -/
structure Match where
  stop : Nat
  groups : Array (Option (Nat × Nat))
  deriving Repr, Inhabited

/-- A compiled pattern. -/
structure Matcher (ι : Type) [Item ι] where
  source : String
  /-- The match that starts at an offset, if there is one. -/
  find : Stream ι → Nat → Option Match
  /-- A match does not end before it starts, and ends at a boundary. -/
  find_stop : ∀ {s pos r}, find s pos = some r → pos ≤ r.stop ∧ s.isBoundary r.stop = true

/-- A parser without parts. -/
inductive Leaf (ι : Type) [Item ι] : Type → Type 1 where
  | succeed {α : Type} (v : α) : Leaf ι α
  | fail {α : Type} (d : String) : Leaf ι α
  /-- The end of the stream. -/
  | eof : Leaf ι Unit
  /-- The offset. -/
  | index : Leaf ι Nat
  | position : Leaf ι Position
  /-- The line and column, in a stream that has lines. -/
  | lineInfo : Leaf ι (Nat × Nat)
  /-- One item that passes a test. -/
  | satisfies (accepts : ι → Bool) (d : String) : Leaf ι ι
  /-- These items in this order. -/
  | literal (items : List ι) (d : String) : Leaf ι (List ι)
  /-- The next `count` items, or all that are left if they are fewer, when they pass a test together. -/
  | upTo (count : Nat) (accepts : List ι → Bool) (d : String) : Leaf ι (List ι)
  /-- The next `count` items, when they pass a test together. -/
  | exactly (count : Nat) (accepts : List ι → Bool) (d : String) : Leaf ι (List ι)
  /-- All items that pass a test, up to the first that does not; at least one. -/
  | span (accepts : ι → Bool) (d : String) : Leaf ι (List ι)
  /-- A match of a pattern; the value holds what the listed groups matched. -/
  | pattern (matcher : Matcher ι) (groups : List Nat) : Leaf ι (List (List ι))
  /-- A parser given by its steps. -/
  | handWritten {α : Type} (step : Stream ι → Nat → Step α) : Leaf ι α

namespace Stream

variable {ι : Type} [Item ι]

/-- The number of offsets that some items take. -/
def extent : List ι → Nat
  | [] => 0
  | a :: as => Item.width a + extent as

/-- Whether these items stand at an offset, one after another. -/
def hasAt [DecidableEq ι] (s : Stream ι) : List ι → Nat → Bool
  | [], pos => s.isBoundary pos
  | a :: as, pos =>
    match s.itemAt pos with
    | some (b, next) => a = b && hasAt s as next
    | none => false

/-- The next items from an offset, `count` at most; none from an offset that is no boundary. -/
def takeAt (s : Stream ι) : (count : Nat) → Nat → List ι
  | 0, _ => []
  | n + 1, pos =>
    match s.itemAt pos with
    | some (a, next) => a :: takeAt s n next
    | none => []

/-- The offset after the last of the items from `pos` on that pass a test, looking at `count` items at most. -/
def spanEnd (s : Stream ι) (accepts : ι → Bool) : (count : Nat) → Nat → Nat
  | 0, pos => pos
  | n + 1, pos =>
    match s.itemAt pos with
    | some (a, next) => if accepts a then spanEnd s accepts n next else pos
    | none => pos

/-- What a group of a match covers; nothing when it took no part. -/
def covered (s : Stream ι) (r : Match) (group : Nat) : List ι :=
  match r.groups[group]? with
  | some (some (start, stop)) => s.between start stop
  | _ => []

end Stream

namespace Leaf

variable {ι : Type} [Item ι] [DecidableEq ι]

/-- What a leaf comes back with. -/
def step (s : Stream ι) (pos : Nat) : {α : Type} → Leaf ι α → Step α
  | _, .succeed v => .done v pos
  | _, .fail d => .failed pos d
  | _, .eof => if s.length ≤ pos then .done () pos else .failed pos "EOF"
  | _, .index => .done pos pos
  | _, .position =>
    match s.position pos with
    | .ok p => .done p pos
    | .error e => .error e
  | _, .lineInfo =>
    match s.lineCol pos with
    | .ok (some place) => .done place pos
    | .ok none => .error .noLineInfo
    | .error e => .error e
  | _, .satisfies accepts d =>
    match s.itemAt pos with
    | some (a, next) => if accepts a then .done a next else .failed pos d
    | none => .failed pos d
  | _, .literal items d => if s.hasAt items pos then .done items (pos + Stream.extent items) else .failed pos d
  | _, .upTo count accepts d =>
    let items := s.takeAt count pos
    if accepts items then .done items (pos + Stream.extent items) else .failed pos d
  | _, .exactly count accepts d =>
    let items := s.takeAt count pos
    if s.isBoundary pos && items.length == count && accepts items then .done items (pos + Stream.extent items)
    else .failed pos d
  | _, .span accepts d =>
    let stop := s.spanEnd accepts s.length pos
    if stop = pos then .failed pos d else .done (s.between pos stop) stop
  | _, .pattern matcher groups =>
    match matcher.find s pos with
    | some r => .done (groups.map (s.covered r)) r.stop
    | none => .failed pos matcher.source
  | _, .handWritten step => step s pos

end Leaf

end Descent
