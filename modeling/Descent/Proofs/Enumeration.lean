import Descent.Proofs.Repetition
import Descent.Proofs.Cuts
import Mathlib.Algebra.Ring.Nat

/-!
# Streams item by item

From a boundary on, the next item is the first of those that are left, and behind it are the others
(`Stream.itemAt_eq_head?`). So stepping from item to item enumerates the stream: no item is passed over or seen twice,
and none is missing before the end (`Stream.StepsOn`).

A grammar that reads one item, whatever it is (`itemStep`), is repeated up to the end of the stream and has a value for
each item, at the offset where the item starts: by itself until there is none left (`runAt_many_items`), and also with the
end as a terminator (`runAt_manyUntil_eof_items`). Of a text these values are its characters, and their offsets are
counted in the bytes of the characters before them (`streams_enumerated`).
-/

namespace Descent

variable {ι : Type} [Item ι] {Γ : Nat → Type} {α : Type}

namespace Stream

variable {s : Stream ι} {pos : Nat}

/-! ## Stepping on -/

theorem itemAt_eq_head? (hpos : s.isBoundary pos = true) :
    s.itemAt pos = (s.rest pos).head?.map fun a => (a, pos + Item.width a) := by
  obtain ⟨u, hs, hu⟩ := eq_ofList_rest hpos
  have hitem := itemAt_append u (s.rest pos) 0
  rw [← hs, Nat.add_zero, hu] at hitem
  rw [hitem]
  cases s.rest pos with
  | nil => simp [itemAt, ofList, layoutOnto]
  | cons a w => rw [itemAt_start, List.head?_cons, Option.map_some, Option.map_some]

theorem itemAt_of_rest_cons (hpos : s.isBoundary pos = true) {a : ι} {w : List ι} (hrest : s.rest pos = a :: w) :
    s.itemAt pos = some (a, pos + Item.width a) ∧ s.isBoundary (pos + Item.width a) = true ∧
      s.rest (pos + Item.width a) = w := by
  have hitem : s.itemAt pos = some (a, pos + Item.width a) := by
    rw [itemAt_eq_head? hpos, hrest, List.head?_cons, Option.map_some]
  have hpasses := passes_itemAt hitem
  refine ⟨hitem, hpasses.boundary, ?_⟩
  have hcons : a :: w = a :: s.rest (pos + Item.width a) := hrest.symm.trans hpasses.rest
  exact (List.cons.inj hcons).2.symm

theorem rest_eq_nil_iff (hpos : s.isBoundary pos = true) : s.rest pos = [] ↔ pos = s.length := by
  have hextent := extent_rest hpos
  cases hrest : s.rest pos with
  | nil =>
    rw [hrest, extent_nil] at hextent
    exact iff_of_true rfl hextent
  | cons a w =>
    have hwidth := Item.width_pos a
    rw [hrest, extent_cons] at hextent
    exact iff_of_false (List.cons_ne_nil a w) (by omega)

theorem extent_eq_sum (as : List ι) : extent as = (as.map Item.width).sum := by
  induction as with
  | nil => rfl
  | cons a as ih => rw [extent_cons, ih, List.map_cons, List.sum_cons]

/-- What stepping on from an offset comes to, where items have these widths. -/
structure StepsOn (width : ι → Nat) (s : Stream ι) (pos : Nat) : Prop where
  /-- The items are those before the offset, which come to it, and those that are left. -/
  parts : ∃ before, s.items = before ++ s.rest pos ∧ (before.map width).sum = pos
  /-- An item ends at a boundary, as much later as it is wide, and is the first of those that are left. -/
  item : ∀ a next, s.itemAt pos = some (a, next) →
    next = pos + width a ∧ s.isBoundary next = true ∧ s.rest pos = a :: s.rest next
  /-- There is none exactly at the end. -/
  ended : s.itemAt pos = none ↔ pos = s.length

theorem stepsOn (hpos : s.isBoundary pos = true) : s.StepsOn Item.width pos where
  parts := by
    obtain ⟨before, hitems, hextent⟩ := split_dropTo hpos
    exact ⟨before, hitems, (extent_eq_sum before).symm.trans hextent⟩
  item a next hitem := by
    have hpasses := passes_itemAt hitem
    exact ⟨(itemAt_eq_some_iff.1 hitem).2, hpasses.boundary, hpasses.rest⟩
  ended := by
    rw [itemAt_eq_head? hpos, Option.map_eq_none_iff, List.head?_eq_none_iff, rest_eq_nil_iff hpos]

theorem isBoundary_ofString_iff {text : String} :
    (ofString text).isBoundary pos = true ↔ (⟨pos⟩ : String.Pos.Raw).IsValid text := by
  rw [isBoundary_iff_split, String.Pos.Raw.isValid_iff_exists_append]
  constructor
  · rintro ⟨u, w, hitems, rfl⟩
    refine ⟨String.ofList u, String.ofList w, ?_, ?_⟩
    · rw [← String.ofList_append, ← hitems, ofString, items_ofList, String.ofList_toList]
    · rw [extent_chars]
      rfl
  · rintro ⟨before, after, rfl, hpos⟩
    refine ⟨before.toList, after.toList, ?_, ?_⟩
    · rw [ofString, items_ofList, String.toList_append]
    · rw [extent_toList]
      exact (congrArg String.Pos.Raw.byteIdx hpos).symm

end Stream

/-! ## Repeating up to the end -/

/-- The values of items that stand one after another from an offset on. -/
def valuesFrom (value : Nat → ι → α) : (pos : Nat) → List ι → List α
  | _, [] => []
  | pos, a :: as => value pos a :: valuesFrom value (pos + Item.width a) as

theorem valuesFrom_eq_mapIdx (value : Nat → ι → α) (pos : Nat) (as : List ι) :
    valuesFrom value pos as = as.mapIdx fun k a => value (pos + ((as.take k).map Item.width).sum) a := by
  induction as generalizing pos with
  | nil => rfl
  | cons a as ih =>
    rw [valuesFrom, ih, List.mapIdx_cons]
    simp [Nat.add_assoc]

theorem valuesFrom_items (pos : Nat) (as : List ι) : valuesFrom (fun _ a => a) pos as = as := by
  induction as generalizing pos with
  | nil => rfl
  | cons a as ih => rw [valuesFrom, ih]

def itemStep (value : Nat → ι → α) (description : String) (s : Stream ι) (pos : Nat) : Step α :=
  match s.itemAt pos with
  | some (a, next) => .done (value pos a) next
  | none => .failed pos description

namespace Parser

variable {p : Parser Option ι α} {s : Stream ι} {value : Nat → ι → α} {description : String} {w : List ι} {pos : Nat}
  {allowance : Nat}

theorem not_stalls_of_item {b : Bounds} (count : Nat) (a : ι) : ¬stalls b count pos (pos + Item.width a) = true := by
  have hwidth : Item.width a ≠ 0 := (Item.width_pos a).ne'
  simp [stalls, hwidth]

theorem timesFrom_items (hp : ∀ q, p s q = some (itemStep value description s q)) (hpos : s.isBoundary pos = true)
    (hrest : s.rest pos = w) (hallow : w.length < allowance) (values : Array α) (seen : Option Furthest) :
    timesFrom .any p s allowance values pos seen
      = some (.success (values.toList ++ valuesFrom value pos w) s.length
          (Furthest.merge seen (some (.of s.length description)))) := by
  obtain ⟨n, rfl⟩ : ∃ n, allowance = n + 1 := ⟨allowance - 1, by omega⟩
  -- the induction is on what is left: a turn takes its first item, so that the rest is left behind it
  induction w generalizing n pos values with
  | nil =>
    obtain rfl := (Stream.rest_eq_nil_iff hpos).1 hrest
    have hitem : s.itemAt s.length = none := (Stream.stepsOn hpos).ended.2 rfl
    rw [timesFrom, run_plain, hp, itemStep, hitem]
    simp [Step.failed, timesEnd, Bounds.any, Bounds.atLeast, valuesFrom, Furthest.of]
  | cons a w ih =>
    obtain ⟨hitem, hnext, hafter⟩ := Stream.itemAt_of_rest_cons hpos hrest
    rw [List.length_cons] at hallow
    obtain ⟨m, rfl⟩ : ∃ m, n = m + 1 := ⟨n - 1, by omega⟩
    have hlater := ih hnext hafter (values.push (value pos a)) m (by omega)
    rw [timesFrom, run_plain, hp, itemStep, hitem]
    simp only [Option.bind_eq_bind, Option.bind_some, Step.done, if_neg (not_stalls_of_item _ a),
      Furthest.merge_none_right]
    rw [hlater, valuesFrom, Array.toList_push, List.append_assoc, List.singleton_append]

/-- A repetition of items up to the end takes all that are left. The end is missed before each of them, but no witness of
that is kept. -/
theorem untilFrom_items {stop : Parser Option ι Unit} (hp : ∀ q, p s q = some (itemStep value description s q))
    (hstop : ∀ q, stop s q = some (if s.length ≤ q then .done () q else .failed q "EOF"))
    (hpos : s.isBoundary pos = true) (hrest : s.rest pos = w) (hallow : w.length ≤ allowance) (values : Array α)
    (seen : Option Furthest) :
    untilFrom .any (fun _ => none) p stop s allowance values pos seen
      = some (.success (values.toList ++ valuesFrom value pos w) s.length seen) := by
  induction w generalizing allowance pos values with
  | nil =>
    obtain rfl := (Stream.rest_eq_nil_iff hpos).1 hrest
    rw [untilFrom_eq_untilTurn, untilTurn, run_plain, hstop, if_pos (Nat.le_refl _)]
    simp [Step.done, Bounds.any, Bounds.atLeast, valuesFrom]
  | cons a w ih =>
    obtain ⟨hitem, hnext, hafter⟩ := Stream.itemAt_of_rest_cons hpos hrest
    rw [List.length_cons] at hallow
    obtain ⟨m, rfl⟩ : ∃ m, allowance = m + 1 := ⟨allowance - 1, by omega⟩
    have hlater := ih hnext hafter (Nat.le_of_succ_le_succ hallow) (values.push (value pos a))
    have hinside : ¬s.length ≤ pos := by
      have hwidth := Item.width_pos a
      have hle := Stream.le_length_of_isBoundary hnext
      omega
    have hfilter : (Bounds.any.max.filter (· ≤ values.size)) = none := rfl
    rw [untilFrom, untilTurn, run_plain, hstop, if_neg hinside]
    simp only [Step.failed, Option.bind_eq_bind, Option.bind_some, untilItem, hfilter]
    rw [run_plain, hp, itemStep, hitem]
    simp only [Option.bind_some, Step.done, if_neg (not_stalls_of_item _ a), Furthest.merge_none_right]
    rw [hlater, valuesFrom, Array.toList_push, List.append_assoc, List.singleton_append]

end Parser

namespace Declarations

variable [DecidableEq ι] {d : Declarations ι Γ} {budget : Nat} {g : Grammar ι Γ α} {s : Stream ι}
  {value : Nat → ι → α} {description : String}

theorem parser_of_itemStep (hg : ∀ q, d.runAt budget g s q = some (itemStep value description s q)) (pos : Nat) :
    d.parser budget g s pos = some (itemStep value description s pos) := by
  rw [← hg, runAt, Parser.run_plain]

theorem runAt_many_items (hg : ∀ q, d.runAt budget g s q = some (itemStep value description s q))
    (hbudget : s.items.length < budget) :
    d.runAt budget (.many g) s 0
      = some (.success (valuesFrom value 0 s.items) s.length (some (.of s.length description))) := by
  have hallow : s.items.length < Bounds.any.allowance budget := Nat.lt_of_lt_of_le hbudget (Nat.le_add_left _ _)
  rw [runAt, Parser.run_plain]
  exact Parser.timesFrom_items (parser_of_itemStep hg) s.isBoundary_zero s.rest_zero hallow #[] .none

theorem runAt_manyUntil_eof_items (hg : ∀ q, d.runAt budget g s q = some (itemStep value description s q))
    (hbudget : s.items.length < budget) :
    d.runAt budget (.manyUntil g .eof) s 0 = some (.success (valuesFrom value 0 s.items) s.length .none) := by
  have hstop (q : Nat) : d.parser budget (.eof : Grammar ι Γ Unit) s q
      = some (if s.length ≤ q then .done () q else .failed q "EOF") := Grammar.parser_leaf .eof budget _ s q
  have hallow : s.items.length ≤ Bounds.any.allowance budget :=
    Nat.le_trans (Nat.le_of_lt hbudget) (Nat.le_add_left _ _)
  rw [runAt, Parser.run_plain]
  exact Parser.untilFrom_items (parser_of_itemStep hg) hstop s.isBoundary_zero s.rest_zero hallow #[] .none

theorem parse_items (hg : ∀ q, d.runAt budget g s q = some (itemStep value description s q))
    (hbudget : s.items.length < budget) :
    d.parse budget (.many g) s = some (.ok (valuesFrom value 0 s.items)) ∧
    d.parse budget (.manyUntil g .eof) s = some (.ok (valuesFrom value 0 s.items)) :=
  ⟨parse_eq_ok_iff.2 ⟨_, _, runAt_many_items hg hbudget, Nat.le_refl _⟩,
    parse_eq_ok_iff.2 ⟨_, _, runAt_manyUntil_eof_items hg hbudget, Nat.le_refl _⟩⟩

theorem parse_map_of_parse {β : Type} {v : α} (h : d.parse budget g s = some (.ok v)) (f : α → β) :
    d.parse budget (.map f g) s = some (.ok (f v)) := by
  obtain ⟨next, w, hrun, hend⟩ := parse_eq_ok_iff.1 h
  refine parse_eq_ok_iff.2 ⟨next, w, ?_, hend⟩
  rw [runAt_map, hrun]
  rfl

end Declarations

/-! ## Texts -/

section Texts

open Grammar

variable (d : Declarations Char Γ) (budget : Nat)

theorem runAt_anyChar (s : Stream Char) (pos : Nat) :
    d.runAt budget anyChar s pos = some (itemStep (fun _ c => c) "any character" s pos) := by
  rw [anyChar, satisfies, Declarations.runAt_leaf, Leaf.step, itemStep]
  cases s.itemAt pos <;> rfl

theorem runAt_zip_index_anyChar (s : Stream Char) (pos : Nat) :
    d.runAt budget (zip index anyChar) s pos = some (itemStep Prod.mk "any character" s pos) := by
  have hindex : d.runAt budget (index : Grammar Char Γ Nat) s pos = some (Step.done pos pos) :=
    d.runAt_leaf budget .index s pos
  rw [Declarations.runAt_zip, hindex, Option.bind_some, Step.done]
  dsimp only
  rw [runAt_anyChar, Option.map_some, Step.aggregate_none, itemStep, itemStep]
  cases s.itemAt pos <;> rfl

/-- The characters of a text, each with the number of bytes that those before it take. -/
def placedChars (text : String) : List (Nat × Char) :=
  text.toList.mapIdx fun k c => (((text.toList.take k).map Char.utf8Size).sum, c)

theorem valuesFrom_placed (text : String) : valuesFrom Prod.mk 0 text.toList = placedChars text := by
  rw [valuesFrom_eq_mapIdx, placedChars]
  simp only [Nat.zero_add]
  rfl

/-- **Stepping through a stream enumerates it.** The boundaries of a text are the positions between its characters; from
each of them on a step takes the next character, as many bytes as it has in UTF-8, and leaves the rest, and there is none
just at the end. It is the same in a stream whose items take one offset each, from every offset up to its end. So any
character, repeated as it is or up to the end, reads the whole text and has just its characters in their order, together
the text, and where each of them starts the offset is the number of bytes before it. -/
theorem streams_enumerated :
    (∀ (text : String) (pos : Nat),
      ((Stream.ofString text).isBoundary pos = true ↔ (⟨pos⟩ : String.Pos.Raw).IsValid text) ∧
      ((Stream.ofString text).isBoundary pos = true → (Stream.ofString text).StepsOn Char.utf8Size pos)) ∧
    (∀ {ι : Type} [Item ι], (∀ a : ι, Item.width a = 1) → ∀ (s : Stream ι) (pos : Nat), pos ≤ s.length →
      s.StepsOn (fun _ => 1) pos) ∧
    ∀ text : String, text.length < budget →
      d.parse budget (many anyChar) (.ofString text) = some (.ok text.toList) ∧
      d.parse budget (manyUntil anyChar eof) (.ofString text) = some (.ok text.toList) ∧
      d.parse budget (concatChars (many anyChar)) (.ofString text) = some (.ok text) ∧
      d.parse budget (concatChars (manyUntil anyChar eof)) (.ofString text) = some (.ok text) ∧
      d.parse budget (many (zip index anyChar)) (.ofString text) = some (.ok (placedChars text)) ∧
      d.parse budget (manyUntil (zip index anyChar) eof) (.ofString text) = some (.ok (placedChars text)) := by
  refine ⟨fun text pos => ⟨Stream.isBoundary_ofString_iff, Stream.stepsOn⟩, fun hwidth s pos hpos => ?_,
    fun text hbudget => ?_⟩
  · have hone : (fun _ => 1) = (Item.width : _ → Nat) := funext fun a => (hwidth a).symm
    rw [hone]
    exact Stream.stepsOn ((Stream.isBoundary_iff_le hwidth).2 hpos)
  · have hitems : (Stream.ofString text).items.length < budget := by
      rwa [Stream.ofString, Stream.items_ofList, String.length_toList]
    obtain ⟨hmany, huntil⟩ := Declarations.parse_items (runAt_anyChar d budget _) hitems
    obtain ⟨hplaced, hplacedUntil⟩ := Declarations.parse_items (runAt_zip_index_anyChar d budget _) hitems
    rw [valuesFrom_items] at hmany huntil
    have hconcat := Declarations.parse_map_of_parse hmany String.ofList
    have hconcatUntil := Declarations.parse_map_of_parse huntil String.ofList
    rw [Stream.ofString, Stream.items_ofList, String.ofList_toList] at hconcat hconcatUntil
    rw [← valuesFrom_placed]
    exact ⟨hmany, huntil, hconcat, hconcatUntil, hplaced, hplacedUntil⟩

end Texts

/-- The second character takes two bytes and the fourth one three, so that the last one starts at the offset 7. -/
theorem streams_enumerated_accents :
    (Stream.ofString "aéb☺c").StepsOn Char.utf8Size 4 ∧
    (Stream.ofString "aéb☺c").itemAt 4 = some ('☺', 7) ∧
    (Stream.ofString "aéb☺c").rest 4 = '☺' :: (Stream.ofString "aéb☺c").rest 7 ∧
    (Stream.ofList [10, 20, 30] : Stream UInt8).StepsOn (fun _ => 1) 3 ∧
    (Declarations.none : Declarations Char fun _ => String).parse 6 (.many (.zip .index .anyChar)) (.ofString "aéb☺c")
      = some (.ok [(0, 'a'), (1, 'é'), (3, 'b'), (4, '☺'), (7, 'c')]) := by
  obtain ⟨htext, hslices, hparses⟩ := streams_enumerated (.none : Declarations Char fun _ => String) 6
  have hsteps := (htext "aéb☺c" 4).2 (by decide +kernel)
  have hitem : (Stream.ofString "aéb☺c").itemAt 4 = some ('☺', 7) := by decide +kernel
  obtain ⟨-, -, hrest⟩ := hsteps.item _ _ hitem
  obtain ⟨-, -, -, -, hplaced, -⟩ := hparses "aéb☺c" (by decide)
  exact ⟨hsteps, hitem, hrest, hslices (fun _ => rfl) (.ofList [10, 20, 30] : Stream UInt8) 3 (by decide), hplaced⟩

end Descent
