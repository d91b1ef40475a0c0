import Descent.Proofs.Sanity

/-!
# Runs look ahead only

A grammar of the fragment `Fragment.relative` does behind the items `u` what it does at the start of a stream, with the
extent of `u` added to every offset (`runAt_append`): each of its leaves reads on from where it stands, and the
combinators compare offsets with each other only.

So parses of the start of a stream compose: what follows a first parse is a parse of the rest
(`parsePartial_zip_iff`).
-/

namespace Descent

variable {ι : Type} [Item ι] {Γ : Nat → Type} {α β : Type}

/-- What a second grammar makes of the rest, reported as by a parse of both. -/
theorem report_behind {s rest : Stream ι} {u : List ι} (hs : s.items = u ++ rest.items) (v : α)
    (seen : Option Furthest) (step : Step β) (b : β) (rest' : Stream ι) :
    ((((step.shift (Stream.extent u)).aggregate seen).map (Prod.mk v)).report s = .ok ((v, b), rest')) ↔
      step.report rest = .ok (b, rest') := by
  cases step with
  | success b' next w =>
    have hdrop : s.dropTo (Stream.extent u + next) = rest.dropTo next := by
      rw [Stream.dropTo, Stream.dropTo, ← Stream.ofList_items s, hs, Stream.rest_append_add, Stream.ofList_items]
    simp [Step.aggregate, Step.map, Step.report, hdrop]
  | fail q w =>
    constructor
    · intro h
      simp only [Step.shift_fail, Step.aggregate, Step.map, Step.report] at h
      split at h <;> cases h
    · intro h
      rw [Step.report] at h
      split at h <;> cases h
  | error e => simp [Step.aggregate, Step.map, Step.report]

variable [DecidableEq ι]

/-! ## Leaves behind other items -/

theorem step_append {l : Leaf ι α} (hl : l.LooksAhead) (u w : List ι) (pos : Nat) :
    l.step (.ofList (u ++ w)) (Stream.extent u + pos) = (l.step (.ofList w) pos).shift (Stream.extent u) := by
  cases l with
  | succeed v => rfl
  | fail d => rfl
  | eof =>
    rw [Leaf.step, Leaf.step, Stream.length_append]
    simp only [Nat.add_le_add_iff_left]
    split_ifs <;> rfl
  | satisfies accepts d =>
    rw [Leaf.step, Leaf.step, Stream.itemAt_append]
    cases (Stream.ofList w).itemAt pos with
    | none => rfl
    | some item =>
      simp only [Option.map_some]
      split_ifs <;> rfl
  | literal items d =>
    rw [Leaf.step, Leaf.step, Stream.hasAt_append, Nat.add_assoc]
    split_ifs <;> rfl
  | upTo count accepts d =>
    rw [Leaf.step, Leaf.step, Stream.takeAt_append]
    simp only [Nat.add_assoc]
    split_ifs <;> rfl
  | exactly count accepts d =>
    rw [Leaf.step, Leaf.step, Stream.takeAt_append, Stream.isBoundary_append]
    simp only [Nat.add_assoc]
    split_ifs <;> rfl
  | span accepts d =>
    -- the larger stream would let a span look at more items than are left
    have hend : (Stream.ofList (u ++ w)).spanEnd accepts (Stream.ofList (u ++ w)).length (Stream.extent u + pos)
        = Stream.extent u + (Stream.ofList w).spanEnd accepts (Stream.ofList w).length pos := by
      rw [Stream.length_append, Nat.add_comm, Stream.spanEnd_append, Stream.spanEnd_add _ _ _ _ _ (Nat.le_add_left _ _)]
    rw [Leaf.step, Leaf.step, hend, Stream.between_append]
    simp only [Nat.add_left_cancel_iff]
    split_ifs <;> rfl
  | index | position | lineInfo | pattern matcher groups | handWritten step => exact hl.elim

theorem alike_append (u w : List ι) :
    Alike (.relative ι) (Stream.extent u) (.ofList (u ++ w)) (.ofList w) where
  leaf hl pos := step_append hl u w pos
  mark h := h.elim

/-! ## Runs behind other items -/

section Runs

variable {d : Declarations ι Γ} (hd : d.Within (.relative ι))

include hd

theorem runAt_append {g : Grammar ι Γ α} (hg : g.Within (.relative ι)) (budget : Nat) (u w : List ι) (pos : Nat) :
    (d.runAt budget g (.ofList (u ++ w)) (Stream.extent u + pos) : Option (Step α))
      = (d.runAt budget g (.ofList w) pos : Option (Step α)).map (Step.shift (Stream.extent u)) :=
  (plain_runAt d budget g _ _).unique (plain_runAt_shift (alike_append u w) hd hg budget pos)

theorem parsePartial_zip_iff {g : Grammar ι Γ α} {h : Grammar ι Γ β} (hg : g.Within (.relative ι))
    (hh : h.Within (.relative ι)) {budget : Nat} {s rest : Stream ι} {a : α}
    (hfirst : d.parsePartial budget g s = some (.ok (a, rest))) (b : β) (rest' : Stream ι) :
    d.parsePartial budget (g.zip h) s = some (.ok ((a, b), rest')) ↔
      d.parsePartial budget h rest = some (.ok (b, rest')) := by
  obtain ⟨next, w, u, hrun, hitems, rfl⟩ :=
    split_of_parsePartial (hd.mono Fragment.relative_allows) (hg.mono Fragment.relative_allows) hfirst
  have hbehind := runAt_append hd hh budget u rest.items 0
  rw [← hitems, Stream.ofList_items, Stream.ofList_items, Nat.add_zero] at hbehind
  rw [d.parsePartial_eq, d.parsePartial_eq, d.runAt_zip, hrun]
  simp only [Option.bind_some, hbehind]
  cases (d.runAt budget h rest 0 : Option (Step β)) with
  | none => simp
  | some step => simpa using report_behind hitems a w step b rest'

end Runs

/-- **Runs look ahead only.** Without `index`, `position`, `lineInfo`, `mark`, patterns and parsers written by hand, a
run behind the items `u` is that of the rest of the stream, with the extent of `u` added to its offsets; and a parse of
two grammars in a row goes on behind the first as a parse of what the first has left. -/
theorem runs_look_ahead {d : Declarations ι Γ} (hd : d.Within (.relative ι)) {g : Grammar ι Γ α}
    (hg : g.Within (.relative ι)) (budget : Nat) :
    (∀ u w pos, (d.runAt budget g (.ofList (u ++ w)) (Stream.extent u + pos) : Option (Step α))
      = (d.runAt budget g (.ofList w) pos : Option (Step α)).map (Step.shift (Stream.extent u))) ∧
    ∀ s a rest, d.parsePartial budget g s = some (.ok (a, rest)) →
      ∀ {β : Type} (h : Grammar ι Γ β), h.Within (.relative ι) → ∀ b rest',
        d.parsePartial budget (g.zip h) s = some (.ok ((a, b), rest')) ↔
          d.parsePartial budget h rest = some (.ok (b, rest')) :=
  ⟨fun u w pos => runAt_append hd hg budget u w pos, fun _ _ _ hfirst _ _ hh b rest' =>
    parsePartial_zip_iff hd hg hh hfirst b rest'⟩

/-- Behind `éü`, where a first run of the grammar ends, a second one reads the other `ü` as at the start of a stream. -/
theorem runs_look_ahead_accents :
    Declarations.accents.Within (.relative Char) ∧ Grammar.accents.Within (.relative Char) ∧
    (Declarations.accents.runAt 3 Grammar.accents (.ofString "éüéü") 4 : Option (Step String))
      = (Declarations.accents.runAt 3 Grammar.accents (.ofString "éü") 0 : Option (Step String)).map (Step.shift 4) ∧
    Declarations.accents.parsePartial 3 Grammar.accents (.ofString "éüéü") = some (.ok ("éü", .ofString "éü")) ∧
    Declarations.accents.parsePartial 3 (Grammar.accents.zip Grammar.accents) (.ofString "éüéü")
      = some (.ok (("éü", "éü"), .ofString "")) := by
  have hd : Declarations.accents.Within (.relative Char) := Declarations.accents_within fun _ _ => trivial
  have hg : Grammar.accents.Within (.relative Char) := Grammar.accents_within fun _ _ => trivial
  obtain ⟨hbehind, hzip⟩ := runs_look_ahead hd hg 3
  have hfirst : Declarations.accents.parsePartial 3 Grammar.accents (.ofString "éüéü")
      = some (.ok ("éü", .ofString "éü")) := rfl
  have hsecond : Declarations.accents.parsePartial 3 Grammar.accents (.ofString "éü")
      = some (.ok ("éü", .ofString "")) := rfl
  exact ⟨hd, hg, hbehind "éü".toList "éü".toList 0, hfirst, (hzip _ _ _ hfirst Grammar.accents hg _ _).2 hsecond⟩

end Descent
