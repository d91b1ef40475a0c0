import Descent.Proofs.Invariant
import Descent.Proofs.Outcome
import Descent.Proofs.Parallel
import Descent.Proofs.Report
import Descent.Stream.Kinds

/-!
# Runs stay in the stream

A run from a boundary ends at a boundary no earlier than it began, whether it succeeds or fails; its witness stands at a
boundary, too, and that of a failure no earlier than the failure itself (`Step.Sane`). This holds of each leaf that the
library offers (`sane_leaf`), and combinators keep it (`sanity`). In streams of bytes or tokens every offset up to the
end is a boundary (`Stream.isBoundary_iff_le`), in text it is one that is not inside a character.

So a parse never asks for the line and column of an offset that has none, and what it leaves unread is the second part
of the stream.
-/

namespace Descent

variable {ι : Type} [Item ι] {Γ : Nat → Type} {α : Type}

/-! ## Sane steps -/

/-- A step from `pos` on that stays in the stream, at its boundaries. -/
def Step.Sane (s : Stream ι) (pos : Nat) : Step α → Prop
  | success _ next w => s.Ahead pos next ∧ ∀ f ∈ w, s.Ahead pos f.pos
  | fail q w => s.Ahead pos q ∧ q ≤ w.pos ∧ s.Ahead pos w.pos
  | error e => ∀ q n, e ≠ .outOfRange q n

namespace Step

variable {s : Stream ι} {pos next : Nat}

theorem sane_outline {step : Step α} : step.outline.Sane s pos ↔ step.Sane s pos := by
  cases step <;> rfl

theorem sane_done {v : α} (h : s.Ahead pos next) : (done v next).Sane s pos := ⟨h, nofun⟩

theorem sane_failed (hpos : s.isBoundary pos = true) (d : String) : (failed pos d : Step α).Sane s pos :=
  ⟨.here hpos, Nat.le_refl _, .here hpos⟩

theorem Sane.mono {step : Step α} (h : step.Sane s next) (hahead : s.Ahead pos next) : step.Sane s pos := by
  cases step with
  | success v q w => exact ⟨hahead.trans h.1, fun f hf => hahead.trans (h.2 f hf)⟩
  | fail q w => exact ⟨hahead.trans h.1, h.2.1, hahead.trans h.2.2⟩
  | error e => exact h

theorem ahead_absorb {f : Furthest} {w : Option Furthest} (hf : s.Ahead pos f.pos)
    (hw : ∀ f ∈ w, s.Ahead pos f.pos) : s.Ahead pos (f.absorb w).pos := by
  cases w with
  | none => exact hf
  | some g =>
    rw [Furthest.pos_absorb]
    rcases Nat.le_total f.pos g.pos with h | h
    · rw [Nat.max_eq_right h]
      exact hw g rfl
    · rw [Nat.max_eq_left h]
      exact hf

theorem Sane.aggregate {step : Step α} {w : Option Furthest} (h : step.Sane s pos)
    (hw : ∀ f ∈ w, s.Ahead pos f.pos) : (step.aggregate w).Sane s pos := by
  cases step with
  | success v next f =>
    refine ⟨h.1, fun g hg => ?_⟩
    cases f with
    | none => exact hw g hg
    | some f =>
      obtain rfl := Option.mem_some.1 hg
      exact ahead_absorb (h.2 f rfl) hw
  | fail q f =>
    refine ⟨h.1, ?_, ahead_absorb h.2.2 hw⟩
    cases w with
    | none => exact h.2.1
    | some g =>
      rw [Furthest.pos_absorb]
      exact Nat.le_trans h.2.1 (Nat.le_max_left _ _)
  | error e => exact h

end Step

theorem sane_leaf [DecidableEq ι] {s : Stream ι} {pos : Nat} (hpos : s.isBoundary pos = true) {l : Leaf ι α}
    (hl : l.IsOffered) : (l.step s pos).Sane s pos := by
  have houtcome := Leaf.outcome_step hl s pos
  generalize l.step s pos = step at houtcome ⊢
  cases houtcome with
  | done v next hnext => exact Step.sane_done (hnext hpos)
  | failed d => exact Step.sane_failed hpos d
  | error e he =>
    rw [he hpos]
    exact fun q n h => nomatch h

/-! ## Sane runs -/

def sanity [DecidableEq ι] (s : Stream ι) : RunInvariant (.library ι) s where
  Holds pos step _ := s.isBoundary pos = true → step.Sane s pos
  start hpos := Step.sane_done (.here hpos)
  leaf hl hpos := Step.sane_outline.2 (sane_leaf hpos hl)
  fails _ hpos := ⟨.here hpos, Nat.le_refl _, .here hpos⟩
  raises he hpos := by
    rcases he with rfl | rfl | ⟨_, hposition⟩
    · exact fun q n h => nomatch h
    · exact fun q n h => nomatch h
    · obtain ⟨p, hp⟩ := Stream.position_eq_ok hpos
      exact absurd (hp.symm.trans hposition) nofun
  run h := h
  tell h := h
  after h h' hpos := ((h' (h hpos).1.boundary).mono (h hpos).1).aggregate (h hpos).2
  retry h h' hpos := (h' hpos).aggregate fun f hf => by
    obtain rfl := Option.mem_some.1 hf
    exact (h hpos).2.2
  stay h hpos := ⟨.here hpos, (h hpos).2⟩
  forget _ h hpos := ⟨(h hpos).1, nofun⟩
  recover _ _ hpos := Step.sane_done (.here hpos)

theorem report_ne_outOfRange {s : Stream ι} {step : Step α} (h : step.Sane s 0) (q n : Nat) :
    step.report s ≠ .error (.definition (.outOfRange q n)) := by
  cases step with
  | success v next w => simp [Step.report]
  | fail r w =>
    obtain ⟨p, hp⟩ := Stream.position_eq_ok h.2.2.boundary
    simp [Step.report, hp]
  | error e =>
    intro he
    exact h q n (Error.definition.inj (Except.error.inj he))

section Runs

variable [DecidableEq ι] {d : Declarations ι Γ} {g : Grammar ι Γ α} {budget : Nat} {s : Stream ι}

theorem sane_of_runAt (hd : d.Within (.library ι)) (hg : g.Within (.library ι)) {pos : Nat} {step : Step α}
    (hpos : s.isBoundary pos = true) (hrun : d.runAt budget g s pos = some step) : step.Sane s pos := by
  obtain ⟨events, hrecorded⟩ := exists_recorded hrun
  obtain ⟨_, _, hsane⟩ := (sanity s).yields_runAt hd hg budget pos _ _ _ hrecorded
  exact Step.sane_outline.1 (hsane hpos)

theorem parsePartial_ne_outOfRange (hd : d.Within (.library ι)) (hg : g.Within (.library ι)) (q n : Nat) :
    d.parsePartial budget g s ≠ some (.error (.definition (.outOfRange q n))) := by
  intro h
  rw [d.parsePartial_eq] at h
  obtain ⟨step, hrun, hreport⟩ := Option.map_eq_some_iff.1 h
  exact report_ne_outOfRange (sane_of_runAt hd hg (Stream.isBoundary_zero s) hrun) q n hreport

theorem split_of_parsePartial (hd : d.Within (.library ι)) (hg : g.Within (.library ι)) {v : α} {rest : Stream ι}
    (h : d.parsePartial budget g s = some (.ok (v, rest))) :
    ∃ next w u, d.runAt budget g s 0 = some (.success v next w) ∧ s.items = u ++ rest.items ∧
      Stream.extent u = next := by
  obtain ⟨next, w, hrun, rfl⟩ := Declarations.success_of_parsePartial h
  have hsane := sane_of_runAt hd hg (Stream.isBoundary_zero s) hrun
  obtain ⟨u, hitems, hextent⟩ := Stream.split_dropTo hsane.1.boundary
  exact ⟨next, w, u, hrun, hitems, hextent⟩

/-- **Runs stay in the stream.** From a boundary on, every run of a grammar without parsers written by hand comes back
with offsets of boundaries ahead of it; parses never report an offset out of range, and leave the second part of the
stream, from where the run ended on. -/
theorem runs_stay_in_stream (hd : d.Within (.library ι)) (hg : g.Within (.library ι)) (budget : Nat) (s : Stream ι) :
    (∀ pos step, s.isBoundary pos = true → d.runAt budget g s pos = some step → step.Sane s pos) ∧
    (∀ q n, d.parse budget g s ≠ some (.error (.definition (.outOfRange q n)))) ∧
    (∀ q n, d.parsePartial budget g s ≠ some (.error (.definition (.outOfRange q n)))) ∧
    ∀ v rest, d.parsePartial budget g s = some (.ok (v, rest)) →
      ∃ next w u, d.runAt budget g s 0 = some (.success v next w) ∧ s.items = u ++ rest.items ∧
        Stream.extent u = next := by
  refine ⟨fun pos step hpos hrun => sane_of_runAt hd hg hpos hrun, fun q n h => ?_, fun q n =>
    parsePartial_ne_outOfRange hd hg q n, fun v rest h => split_of_parsePartial hd hg h⟩
  have hskip : (g.skip .eof).Within (.library ι) := ⟨hg, trivial⟩
  rw [d.parse_eq] at h
  obtain ⟨result, hpartial, hmap⟩ := Option.map_eq_some_iff.1 h
  cases result with
  | ok r => cases hmap
  | error e =>
    obtain rfl : e = .definition (.outOfRange q n) := Except.error.inj hmap
    exact parsePartial_ne_outOfRange hd hskip q n hpartial

end Runs

/-- Two letters are read before the grammar fails behind them: it fails where it began, with the witness behind. -/
theorem runs_stay_in_stream_accents :
    Declarations.accents.Within (.library Char) ∧ Grammar.accents.Within (.library Char) ∧
    (Stream.ofString "ééx").isBoundary 0 = true ∧
    Declarations.accents.runAt 3 Grammar.accents (.ofString "ééx") 0
      = some (.fail 0 ⟨4, (Keyed.single "é").insert "ü"⟩ : Step String) ∧
    (Step.fail 0 ⟨4, (Keyed.single "é").insert "ü"⟩ : Step String).Sane (.ofString "ééx") 0 := by
  have hd : Declarations.accents.Within (.library Char) := Declarations.accents_within fun _ _ => trivial
  have hg : Grammar.accents.Within (.library Char) := Grammar.accents_within fun _ _ => trivial
  have hrun : Declarations.accents.runAt 3 Grammar.accents (.ofString "ééx") 0
      = some (.fail 0 ⟨4, (Keyed.single "é").insert "ü"⟩ : Step String) := by decide
  exact ⟨hd, hg, by decide, hrun, (runs_stay_in_stream hd hg 3 _).1 0 _ (by decide) hrun⟩

end Descent
