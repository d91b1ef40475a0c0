import Descent.Proofs.LongestFirst
import Descent.Proofs.Places

/-!
# Cuts

`s.cut? start stop`: the items between two offsets, where both are boundaries. A cut parts the stream in three: what is
before it, the cut, and what is behind it (`cut?_eq_some_iff`).

A literal can be looked for in two ways: the text from an offset on is cut behind as many bytes as the literal has,
which may be inside a character or behind the end, or behind as many characters, or all that are left. From a boundary
on, each of the cuts is the literal exactly if what is left starts with it (`cut?_eq_some_iff_starts`,
`slice_eq_iff_starts`). So the ways of reading a literal agree (`literals_agree`).
-/

namespace Descent

namespace Stream

variable {ι : Type} [Item ι] {s : Stream ι} {start stop : Nat} {items : List ι}

theorem between_split (u v w : List ι) : (ofList (u ++ v ++ w)).between (extent u) (extent (u ++ v)) = v := by
  have hshift := between_append u (v ++ w) 0 (extent v)
  rw [between_extent, Nat.add_zero, ← List.append_assoc, ← extent_append] at hshift
  exact hshift

theorem cut?_eq_some_iff :
    s.cut? start stop = some items ↔
      ∃ u w, s.items = u ++ items ++ w ∧ extent u = start ∧ extent (u ++ items) = stop := by
  rw [cut?]
  constructor
  · intro hcut
    split_ifs at hcut with h
    obtain ⟨hle, hstart, hstop⟩ := h
    obtain ⟨u, v, w, hitems, rfl, rfl⟩ := split_between hstart hstop hle
    obtain rfl : s = ofList (u ++ v ++ w) := ext hitems
    rw [between_split] at hcut
    obtain rfl := Option.some.inj hcut
    exact ⟨u, w, hitems, rfl, rfl⟩
  · rintro ⟨u, w, hitems, rfl, rfl⟩
    have hle : extent u ≤ extent (u ++ items) := by
      rw [extent_append]
      exact Nat.le_add_right _ _
    have hstart : s.isBoundary (extent u) = true :=
      isBoundary_iff_split.2 ⟨u, items ++ w, by rw [hitems, List.append_assoc], rfl⟩
    have hstop : s.isBoundary (extent (u ++ items)) = true := isBoundary_iff_split.2 ⟨u ++ items, w, hitems, rfl⟩
    obtain rfl : s = ofList (u ++ items ++ w) := ext hitems
    rw [if_pos ⟨hle, hstart, hstop⟩, between_split]

theorem cut?_eq_some_iff_starts (hpos : s.isBoundary start = true) :
    s.cut? start (start + extent items) = some items ↔ items <+: s.rest start := by
  rw [cut?_eq_some_iff]
  constructor
  · rintro ⟨u, w, hitems, rfl, -⟩
    obtain rfl : s = ofList (u ++ items ++ w) := ext hitems
    rw [List.append_assoc, rest_append]
    exact List.prefix_append items w
  · rintro ⟨w, hrest⟩
    obtain ⟨u, hs, rfl⟩ := eq_ofList_rest hpos
    refine ⟨u, w, ?_, rfl, extent_append u items⟩
    rw [List.append_assoc, hrest]
    exact congrArg Stream.items hs

end Stream

/-! ## Exact literals -/

theorem slice_eq_iff_starts (rest : List Char) (text : String) :
    slice rest text.length = text ↔ text.toList <+: rest := by
  rw [slice, ← String.toList_inj, String.toList_ofList, List.prefix_iff_eq_take, String.length_toList, eq_comm]

/-- The step of an exact literal at `pos`, where `rest` is left. -/
def exactStep (text : String) (rest : List Char) (pos : Nat) : Step String :=
  if text.toList <+: rest then .done text (pos + text.utf8ByteSize) else .failed pos text

namespace Declarations

variable {Γ : Nat → Type} {d : Declarations Char Γ} {budget : Nat} {s : Stream Char} {pos : Nat}

theorem runAt_literalWith_id (hpos : s.isBoundary pos = true) (text : String) :
    (d.runAt budget (.literalWith text id) s pos : Option (Step String)) = some (exactStep text (s.rest pos) pos) := by
  rw [runAt_literalWith hpos, exactStep, id, id]
  by_cases h : text.toList <+: s.rest pos
  · have hslice := (slice_eq_iff_starts (s.rest pos) text).2 h
    rw [hslice, if_pos rfl, if_pos h]
  · have hslice : slice (s.rest pos) text.length ≠ text := fun heq => h ((slice_eq_iff_starts _ _).1 heq)
    rw [if_neg hslice, if_neg h]

theorem runAt_stringFrom_singleton (text : String) :
    (d.runAt budget (.stringFrom [text]) s pos : Option (Step String)) = d.runAt budget (.literal text) s pos := by
  have hsorted : Grammar.byLength [(text, ())] = [(text, ())] := List.mergeSort_singleton _
  rw [Grammar.stringFrom, List.map_singleton, hsorted, List.map_singleton, runAt, runAt, Parser.run_plain,
    Parser.run_plain, parser, parser, Grammar.parser_alt, List.map_singleton, Parser.alt_singleton]

theorem parse_of_exact {α : Type} {g : Grammar Char Γ α} {text source : String} {f : String → α}
    (hrun : d.runAt budget g (.ofString source) 0 = some ((exactStep text source.toList 0).map f)) {v : α} :
    d.parse budget g (.ofString source) = some (.ok v) ↔ source = text ∧ f text = v := by
  have hlength : (Stream.ofString source).length = source.utf8ByteSize := by
    rw [Stream.length_eq_extent, Stream.ofString, Stream.items_ofList, Stream.extent_toList]
  rw [parse_eq_ok_iff, hrun, hlength, exactStep]
  constructor
  · rintro ⟨next, w, hstep, hend⟩
    split_ifs at hstep with hprefix
    · obtain ⟨rfl, rfl, -⟩ := Step.success.inj (Option.some.inj hstep)
      have hsize : source.utf8ByteSize ≤ text.utf8ByteSize := by omega
      -- a prefix of the source that has as many bytes is the source
      have hsame := isPrefix_of_size_le hprefix List.prefix_rfl hsize
      exact ⟨eq_of_prefixes hsame hprefix, rfl⟩
    · cases hstep
  · rintro ⟨rfl, rfl⟩
    rw [if_pos List.prefix_rfl]
    exact ⟨_, _, rfl, Nat.le_add_left _ _⟩

end Declarations

section Exact

variable {Γ : Nat → Type} {α : Type} (d : Declarations Char Γ) (budget : Nat) (text : String)

/-- **A literal is read in the same way however it is looked for.** From a boundary on, a literal, the literal up to the
identity and the choice of this literal come back with one step: the literal, if what is left starts with it, and
otherwise a failure where they are, which expects just the literal. What is left starts with the literal exactly if a
cut of as many bytes is the literal, and exactly if a cut of as many characters is. So the literal parses itself and no
other text, and a function of its value is applied to the literal. -/
theorem literals_agree :
    (∀ (s : Stream Char) (pos : Nat), s.isBoundary pos = true →
      d.runAt budget (.literal text) s pos = some (exactStep text (s.rest pos) pos) ∧
      d.runAt budget (.literalWith text id) s pos = some (exactStep text (s.rest pos) pos) ∧
      d.runAt budget (.stringFrom [text]) s pos = some (exactStep text (s.rest pos) pos) ∧
      (s.cut? pos (pos + text.utf8ByteSize) = some text.toList ↔ text.toList <+: s.rest pos) ∧
      (slice (s.rest pos) text.length = text ↔ text.toList <+: s.rest pos)) ∧
    (∀ source v : String, d.parse budget (.literal text) (.ofString source) = some (.ok v) ↔ source = text ∧ text = v) ∧
    ∀ f : String → α, d.parse budget (.map f (.literal text)) (.ofString text) = some (.ok (f text)) := by
  have hstart (source : String) :
      d.runAt budget (.literal text) (.ofString source) 0 = some (exactStep text source.toList 0) := by
    have hrun : d.runAt budget (.literal text) (.ofString source) 0
        = some (exactStep text ((Stream.ofString source).rest 0) 0) :=
      Declarations.runAt_literal (Stream.isBoundary_zero _) text
    rwa [Stream.rest_zero] at hrun
  refine ⟨?_, ?_, ?_⟩
  · intro s pos hpos
    have hliteral : d.runAt budget (.literal text) s pos = some (exactStep text (s.rest pos) pos) :=
      Declarations.runAt_literal hpos text
    refine ⟨hliteral, Declarations.runAt_literalWith_id hpos text, ?_, ?_, slice_eq_iff_starts _ _⟩
    · rw [Declarations.runAt_stringFrom_singleton, hliteral]
    · rw [← Stream.extent_toList]
      exact Stream.cut?_eq_some_iff_starts hpos
  · intro source v
    refine Declarations.parse_of_exact (f := id) ?_
    rw [hstart source]
    cases exactStep text source.toList 0 <;> rfl
  · intro f
    refine (Declarations.parse_of_exact (f := f) ?_).2 ⟨rfl, rfl⟩
    rw [Declarations.runAt_map, hstart text]
    rfl

end Exact

/-- A character of two bytes is read as a literal behind one of one byte, and so is the cut between the offsets 1 and
3. -/
theorem literals_agree_accents :
    Declarations.none.runAt 0 (.literal "é" : Grammar Char (fun _ => String) String) (.ofString "aéb") 1
      = some (.done "é" 3) ∧
    Declarations.none.runAt 0 (.literalWith "é" id : Grammar Char (fun _ => String) String) (.ofString "aéb") 1
      = some (.done "é" 3) ∧
    (Stream.ofString "aéb").cut? 1 3 = some ['é'] ∧
    Declarations.none.parse 0 (.literal "é" : Grammar Char (fun _ => String) String) (.ofString "é")
      = some (.ok "é") := by
  obtain ⟨hsteps, hparse, -⟩ := literals_agree (α := String) (.none : Declarations Char fun _ => String) 0 "é"
  obtain ⟨hliteral, hwith, -, hcut, -⟩ := hsteps (.ofString "aéb") 1 (by decide)
  have hstarts : "é".toList <+: (Stream.ofString "aéb").rest 1 := by decide
  have hstep : exactStep "é" ((Stream.ofString "aéb").rest 1) 1 = .done "é" 3 := if_pos hstarts
  rw [hstep] at hliteral hwith
  exact ⟨hliteral, hwith, hcut.2 hstarts, (hparse "é" "é").2 ⟨rfl, rfl⟩⟩

end Descent
