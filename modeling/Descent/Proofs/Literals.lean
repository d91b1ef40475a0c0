import Descent.Proofs.Passage
import Descent.Proofs.Regrouping

/-!
# Literals

From a boundary on, what a literal reads depends on what is left alone: its items stand there exactly if they are a
prefix of the rest (`hasAt_iff_prefix`), and the next items, up to some number, are as many of the rest
(`takeAt_eq_take`). So the step of a literal, and that of a literal up to a transformation, are given by the rest of the
text (`runAt_literal`, `runAt_literalWith`).

A literal up to a transformation takes as many characters as it has itself. Where fewer are left it takes these, so that
what stands behind them, if it came to be there, would be taken as well (`transformed_literal_slice`).
-/

namespace Descent

namespace Stream

/-! ## Reading what is left -/

variable {ι : Type} [Item ι] {s : Stream ι} {pos : Nat}

theorem eq_ofList_rest (hpos : s.isBoundary pos = true) : ∃ u, s = ofList (u ++ s.rest pos) ∧ extent u = pos := by
  obtain ⟨u, hitems, hextent⟩ := split_dropTo hpos
  exact ⟨u, ext hitems, hextent⟩

theorem hasAt_zero_iff [DecidableEq ι] {items w : List ι} : (ofList w).hasAt items 0 = true ↔ items <+: w := by
  induction items generalizing w with
  | nil => simp [hasAt, isBoundary_zero]
  | cons a as ih =>
    cases w with
    | nil => simp [hasAt, itemAt, ofList, layoutOnto]
    | cons b w =>
      have hrest : (ofList (b :: w)).hasAt as (Item.width b) = (ofList w).hasAt as 0 := hasAt_append [b] w as 0
      rw [hasAt, itemAt_start, List.cons_prefix_cons, ← ih, ← hrest, Bool.and_eq_true, decide_eq_true_eq]

theorem takeAt_zero (count : Nat) (w : List ι) : (ofList w).takeAt count 0 = w.take count := by
  induction count generalizing w with
  | zero => rfl
  | succ n ih =>
    cases w with
    | nil => simp [takeAt, itemAt, ofList, layoutOnto]
    | cons b w =>
      have hrest : (ofList (b :: w)).takeAt n (Item.width b) = (ofList w).takeAt n 0 := takeAt_append [b] w n 0
      rw [takeAt, itemAt_start, List.take_succ_cons, ← ih, ← hrest]

theorem hasAt_iff_prefix [DecidableEq ι] (hpos : s.isBoundary pos = true) (items : List ι) :
    s.hasAt items pos = true ↔ items <+: s.rest pos := by
  obtain ⟨u, hs, hu⟩ := eq_ofList_rest hpos
  rw [← hasAt_zero_iff, ← hasAt_append u, ← hs, hu, Nat.add_zero]

theorem takeAt_eq_take (hpos : s.isBoundary pos = true) (count : Nat) : s.takeAt count pos = (s.rest pos).take count := by
  obtain ⟨u, hs, hu⟩ := eq_ofList_rest hpos
  rw [← takeAt_zero, ← takeAt_append u, ← hs, hu, Nat.add_zero]

theorem rest_more (hpos : s.isBoundary pos = true) (more : List ι) :
    (ofList (s.items ++ more)).isBoundary pos = true ∧ (ofList (s.items ++ more)).rest pos = s.rest pos ++ more := by
  obtain ⟨u, hitems, rfl⟩ := split_dropTo hpos
  rw [dropTo, items_ofList] at hitems
  have hmore : s.items ++ more = u ++ (s.rest (extent u) ++ more) := by
    rw [← List.append_assoc, ← hitems]
  refine ⟨isBoundary_iff_split.2 ⟨u, _, hmore, rfl⟩, ?_⟩
  rw [hmore, rest_append]

theorem extent_rest (hpos : s.isBoundary pos = true) : pos + extent (s.rest pos) = s.length := by
  obtain ⟨u, hitems, rfl⟩ := split_dropTo hpos
  rw [length_eq_extent, hitems, dropTo, items_ofList, extent_append]

theorem extent_toList (text : String) : extent text.toList = text.utf8ByteSize := by
  rw [extent_chars, String.ofList_toList]

end Stream

/-! ## The steps of literals -/

/-- What a literal of `count` characters takes of the rest of a text, up to a transformation: as many characters, or all
that are left if they are fewer. -/
def slice (rest : List Char) (count : Nat) : String := String.ofList (rest.take count)

@[simp] theorem length_slice (rest : List Char) (count : Nat) : (slice rest count).length = min count rest.length := by
  rw [slice, String.length_ofList, List.length_take]

namespace Declarations

variable {Γ : Nat → Type} {d : Declarations Char Γ} {budget : Nat} {s : Stream Char} {pos : Nat}

theorem runAt_literal (hpos : s.isBoundary pos = true) (text : String) :
    (d.runAt budget (.literal text) s pos : Option (Step String))
      = some (if text.toList <+: s.rest pos then .done text (pos + text.utf8ByteSize) else .failed pos text) := by
  rw [Grammar.literal, runAt_map, runAt_leaf, Leaf.step, Stream.extent_toList]
  simp only [Stream.hasAt_iff_prefix hpos, Option.map_some]
  split
  · simp [Step.done, Step.map]
  · rfl

theorem runAt_literalWith (hpos : s.isBoundary pos = true) (text : String) (transform : String → String) :
    (d.runAt budget (.literalWith text transform) s pos : Option (Step String))
      = some (if transform (slice (s.rest pos) text.length) = transform text
          then .done (slice (s.rest pos) text.length) (pos + (slice (s.rest pos) text.length).utf8ByteSize)
          else .failed pos text) := by
  have hslice : String.ofList ((s.rest pos).take text.length) = slice (s.rest pos) text.length := rfl
  rw [Grammar.literalWith, runAt_map, runAt_leaf, Leaf.step, Stream.takeAt_eq_take hpos]
  simp only [Option.map_some, beq_iff_eq, Stream.extent_chars, hslice]
  split <;> rfl

end Declarations

/-! ## Literals at the end of a text -/

section Text

variable {Γ : Nat → Type} (d : Declarations Char Γ) (budget : Nat)

theorem rest_ofString_append {text : String} {pos : Nat} (hpos : (Stream.ofString text).isBoundary pos = true)
    (more : String) :
    (Stream.ofString (text ++ more)).isBoundary pos = true ∧
      (Stream.ofString (text ++ more)).rest pos = (Stream.ofString text).rest pos ++ more.toList := by
  have hmore := Stream.rest_more hpos more.toList
  rw [Stream.ofString, Stream.items_ofList, ← String.toList_append] at hmore
  exact hmore

theorem slice_append_of_le {rest : List Char} {count : Nat} (h : count ≤ rest.length) (more : List Char) :
    slice (rest ++ more) count = slice rest count := by
  rw [slice, slice, List.take_append_of_le_length h]

theorem slice_append_of_lt {rest : List Char} {count : Nat} (h : rest.length < count) (more : List Char) :
    slice (rest ++ more) count = slice rest count ++ slice more (count - (slice rest count).length) := by
  have hlength : (slice rest count).length = rest.length := by
    rw [length_slice]
    omega
  rw [hlength, slice, slice, slice, List.take_append, String.ofList_append]

theorem slice_of_lt {rest : List Char} {count : Nat} (h : rest.length < count) : slice rest count = String.ofList rest := by
  rw [slice, List.take_of_length_le (Nat.le_of_lt h)]

/-- **What a literal up to a transformation takes** is as many characters as it has, or all that are left where these are
fewer. If they are as many, it takes the same with anything behind the text; if they are fewer, they end the text, and
with more behind it the literal takes more, as far as it goes, and has to match that. They are as many if the
transformation keeps the number of characters. -/
theorem transformed_literal_slice {literal : String} {transform : String → String} {text : String} {pos : Nat}
    (hpos : (Stream.ofString text).isBoundary pos = true) {v : String} {next : Nat} {w : Option Furthest}
    (hrun : d.runAt budget (.literalWith literal transform) (.ofString text) pos = some (.success v next w)) :
    v = slice ((Stream.ofString text).rest pos) literal.length ∧ next = pos + v.utf8ByteSize ∧
    v.length = min literal.length ((Stream.ofString text).rest pos).length ∧
    (v.length = literal.length → ∀ more : String,
      d.runAt budget (.literalWith literal transform) (.ofString (text ++ more)) pos = some (.success v next w)) ∧
    (v.length < literal.length → next = (Stream.ofString text).length ∧ ∀ more : String,
      let longer := v ++ slice more.toList (literal.length - v.length)
      d.runAt budget (.literalWith literal transform) (.ofString (text ++ more)) pos
        = some (if transform longer = transform literal then .done longer (pos + longer.utf8ByteSize)
            else .failed pos literal)) ∧
    ((∀ u, (transform u).length = u.length) → v.length = literal.length) := by
  have hmore (more : String) := rest_ofString_append hpos more
  rw [Declarations.runAt_literalWith hpos] at hrun
  split at hrun
  next hsame =>
    obtain ⟨rfl, rfl, rfl⟩ := Step.success.inj (Option.some.inj hrun)
    have hlength := length_slice ((Stream.ofString text).rest pos) literal.length
    refine ⟨rfl, rfl, hlength, fun hfull more => ?_, fun hshort => ⟨?_, fun more => ?_⟩, fun hkeeps => ?_⟩
    · have hle : literal.length ≤ ((Stream.ofString text).rest pos).length := by omega
      rw [Declarations.runAt_literalWith (hmore more).1, (hmore more).2, slice_append_of_le hle, if_pos hsame]
      rfl
    · have hlt : ((Stream.ofString text).rest pos).length < literal.length := by omega
      rw [slice_of_lt hlt, ← Stream.extent_chars, Stream.extent_rest hpos]
    · have hlt : ((Stream.ofString text).rest pos).length < literal.length := by omega
      rw [Declarations.runAt_literalWith (hmore more).1, (hmore more).2, slice_append_of_lt hlt]
    · rw [← hkeeps, hsame, hkeeps]
  next => cases hrun

end Text

def withoutDashes (text : String) : String := String.ofList (text.toList.filter (· ≠ '-'))

/-- A text, with dashes in other places or without them. -/
def Grammar.dashed (text : String) : Grammar Char (fun _ => String) String := literalWith text withoutDashes

/-- In the middle of a text, the literal takes as many characters as it has, dashes or not. -/
theorem transformed_literal_slice_dashes :
    Declarations.none.runAt 0 (.dashed "a-b") (.ofString "éab-") 2 = some (.success "ab-" 5 none) ∧
    Declarations.none.runAt 0 (.dashed "a-b") (.ofString ("éab-" ++ "c")) 2 = some (.success "ab-" 5 none) := by
  have hrun : Declarations.none.runAt 0 (.dashed "a-b") (.ofString "éab-") 2 = some (.success "ab-" 5 none) := by decide
  have hslice := transformed_literal_slice .none 0 (by decide) hrun
  exact ⟨hrun, hslice.2.2.2.1 (by decide) "c"⟩

/-- At the end of a text, one character does for a literal of two, but no longer when another one comes behind it. -/
theorem transformed_literal_short :
    Declarations.none.runAt 0 (.dashed "a-") (.ofString "a") 0 = some (.success "a" 1 none) ∧
    "a".length ≠ "a-".length ∧
    Declarations.none.runAt 0 (.dashed "a-") (.ofString ("a" ++ "b")) 0 = some (.failed 0 "a-") := by
  decide

end Descent
