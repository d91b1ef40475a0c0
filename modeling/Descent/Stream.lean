import Descent.Error

/-!
# Streams

* `Item ι`: how many offsets an item takes, how reports name it, and which items end a line
* `Stream ι`: items laid out over offsets, each found by its offset in constant time
* `Stream.itemAt`, `Stream.between`, `Stream.cut?`, `Stream.rest`: reading from an offset; an offset inside an item, or
  past the end, is no place to read from (`Stream.isBoundary`)
* `Stream.lineCol`, `Stream.position`: lines and columns
-/

namespace Descent

/-- What a stream has to know of its items. -/
class Item (ι : Type) where
  /-- The number of offsets that an item takes. -/
  width : ι → Nat
  width_pos : ∀ a, 0 < width a
  /-- The name of an item in reports. -/
  describe : ι → String
  /-- The items after which a new line begins, in streams that have lines. -/
  endsLine? : Option (ι → Bool)

/-- The name of a list of items in reports. -/
def Item.describeAll {ι : Type} [Item ι] (items : List ι) : String := Text.bracketed (items.map Item.describe)

/-- The cells of a list of items: an item at its first offset, and nothing at the other offsets it takes. -/
def layout {ι : Type} [Item ι] : List ι → List (Option ι)
  | [] => []
  | a :: as => some a :: (List.replicate (Item.width a - 1) none ++ layout as)

/-- Lays items out behind the cells that are there. -/
def layoutOnto {ι : Type} [Item ι] (cells : Array (Option ι)) : List ι → Array (Option ι)
  | [] => cells
  | a :: as => layoutOnto (cells.push (some a) ++ Array.replicate (Item.width a - 1) none) as

theorem toList_layoutOnto {ι : Type} [Item ι] (cells : Array (Option ι)) (as : List ι) :
    (layoutOnto cells as).toList = cells.toList ++ layout as := by
  induction as generalizing cells with
  | nil => simp [layoutOnto, layout]
  | cons a as ih => simp [layoutOnto, layout, ih]

/-- Items laid out over offsets. -/
structure Stream (ι : Type) [Item ι] where
  items : List ι
  cells : Array (Option ι)
  cells_eq : cells.toList = layout items

namespace Stream

variable {ι : Type} [Item ι]

def ofList (items : List ι) : Stream ι :=
  ⟨items, layoutOnto #[] items, by simp [toList_layoutOnto]⟩

@[ext] theorem ext {s t : Stream ι} (h : s.items = t.items) : s = t := by
  obtain ⟨xs, c, hc⟩ := s
  obtain ⟨ys, d, hd⟩ := t
  obtain rfl : xs = ys := h
  obtain rfl : c = d := Array.toList_inj.1 (hc.trans hd.symm)
  rfl

@[simp] theorem items_ofList (items : List ι) : (ofList items).items = items := rfl

@[simp] theorem ofList_items (s : Stream ι) : ofList s.items = s := ext rfl

/-- The number of offsets that all items take together. -/
def length (s : Stream ι) : Nat := s.cells.size

def isEmpty (s : Stream ι) : Bool := s.length == 0

/-- Whether an item starts at an offset, or the stream ends there. -/
def isBoundary (s : Stream ι) (pos : Nat) : Bool :=
  match s.cells[pos]? with
  | some cell => cell.isSome
  | none => pos == s.length

/-- The item that starts at an offset, and the offset after it. -/
def itemAt (s : Stream ι) (pos : Nat) : Option (ι × Nat) :=
  match s.cells[pos]? with
  | some (some a) => some (a, pos + Item.width a)
  | _ => none

/-- The items that start between two offsets. -/
def between (s : Stream ι) (start stop : Nat) : List ι :=
  (s.cells.extract start stop).toList.filterMap id

/-- The items between two offsets; nothing, if one of them is no boundary or they are in the wrong order. -/
def cut? (s : Stream ι) (start stop : Nat) : Option (List ι) :=
  if start ≤ stop ∧ s.isBoundary start = true ∧ s.isBoundary stop = true then some (s.between start stop) else none

/-- The items from an offset on; none from an offset that is no boundary. -/
def rest (s : Stream ι) (pos : Nat) : List ι :=
  if s.isBoundary pos then s.between pos s.length else []

/-- The stream that is left from an offset on. -/
def dropTo (s : Stream ι) (pos : Nat) : Stream ι := ofList (s.rest pos)

/-! ## Lines and columns -/

/-- The line and the column behind some items: the number of line ends among them, and the number of items behind the
last of these. -/
def placeAfter (endsLine : ι → Bool) (before : List ι) : Nat × Nat :=
  (before.countP endsLine, (before.reverse.takeWhile fun a => !endsLine a).length)

/-- The line and column of an offset, where the stream has lines. -/
def lineCol (s : Stream ι) (pos : Nat) : Except DefinitionError (Option (Nat × Nat)) :=
  if s.isBoundary pos then .ok (Item.endsLine?.map fun endsLine => placeAfter endsLine (s.between 0 pos))
  else .error (.outOfRange pos s.length)

def position (s : Stream ι) (pos : Nat) : Except DefinitionError Position :=
  (s.lineCol pos).map fun lineCol => ⟨pos, lineCol⟩

end Stream

end Descent
