import Descent.Proofs.Invariant
import Descent.Proofs.Outcome
import Descent.Proofs.Parallel
import Descent.Stream.Kinds

/-!
# The witness of a run is exact

A record of a run holds every failure at the place where it arises: of a leaf, of a choice without branches, of a
repetition with too few items. The witness that the run comes back with is what this record comes to
(`IsFurthest`): it is missing when the record is empty, and otherwise stands at the largest offset on record and expects
just what was expected there, in branches that were given up as well.

This holds of the grammars that leave no witnesses out (`witness_exact`).
-/

namespace Descent

variable {ι : Type} [Item ι] {Γ : Nat → Type} {α : Type}

def failures (events : List Event) : List Furthest :=
  events.filterMap fun
    | .failed w => some w
    | _ => none

@[simp] theorem failures_append (t t' : List Event) : failures (t ++ t') = failures t ++ failures t' :=
  List.filterMap_append

/-- What a record of failures comes to: the largest offset, and everything that was expected there. -/
def IsFurthest (record : List Furthest) : Option Furthest → Prop
  | none => record = []
  | some w =>
    (∃ f ∈ record, f.pos = w.pos) ∧ (∀ f ∈ record, f.pos ≤ w.pos) ∧
      ∀ z, z ∈ w.expected ↔ ∃ f ∈ record, f.pos = w.pos ∧ z ∈ f.expected

namespace IsFurthest

theorem singleton (w : Furthest) : IsFurthest [w] (some w) := by
  refine ⟨⟨w, List.mem_singleton_self w, rfl⟩, fun f hf => ?_, fun z => ?_⟩
  · rw [List.mem_singleton.1 hf]
  · simp

theorem toList (w : Option Furthest) : IsFurthest w.toList w := by
  cases w with
  | none => rfl
  | some f => exact .singleton f

theorem congr {r r' : List Furthest} {w : Option Furthest} (h : ∀ f, f ∈ r ↔ f ∈ r') (hw : IsFurthest r w) :
    IsFurthest r' w := by
  cases w with
  | none =>
    obtain rfl : r = [] := hw
    exact List.eq_nil_iff_forall_not_mem.2 fun f hf => List.not_mem_nil ((h f).2 hf)
  | some w => simpa only [IsFurthest, h] using hw

theorem unique {r : List Furthest} {w w' : Option Furthest} (hw : IsFurthest r w) (hw' : IsFurthest r w') :
    w = w' := by
  cases w with
  | none =>
    obtain rfl : r = [] := hw
    cases w' with
    | none => rfl
    | some g =>
      obtain ⟨⟨f, hf, _⟩, _⟩ := hw'
      cases hf
  | some f =>
    obtain ⟨⟨x, hx, hxpos⟩, hle, hmem⟩ := hw
    cases w' with
    | none =>
      obtain rfl : r = [] := hw'
      cases hx
    | some g =>
      obtain ⟨⟨y, hy, hypos⟩, hle', hmem'⟩ := hw'
      have hpos : f.pos = g.pos := Nat.le_antisymm (hxpos ▸ hle' x hx) (hypos ▸ hle y hy)
      exact congrArg some (Furthest.ext_mem hpos fun z => by rw [hmem, hmem', hpos])

theorem absorb {r r' : List Furthest} {f g : Furthest} (h : IsFurthest r (some f)) (h' : IsFurthest r' (some g)) :
    IsFurthest (r ++ r') (some (f.absorb (some g))) := by
  obtain ⟨⟨x, hx, hxpos⟩, hle, hmem⟩ := h
  obtain ⟨⟨y, hy, hypos⟩, hle', hmem'⟩ := h'
  have hpos := Furthest.pos_absorb f g
  refine ⟨?_, fun a ha => ?_, fun z => ?_⟩
  · rcases Nat.le_total f.pos g.pos with hfg | hfg
    · exact ⟨y, List.mem_append_right _ hy, by omega⟩
    · exact ⟨x, List.mem_append_left _ hx, by omega⟩
  · rcases List.mem_append.1 ha with ha | ha
    · have := hle a ha
      omega
    · have := hle' a ha
      omega
  · rw [Furthest.mem_absorb, hmem, hmem']
    constructor
    · rintro (⟨hfg, a, ha, hapos, hz⟩ | ⟨hfg, a, ha, hapos, hz⟩)
      · exact ⟨a, List.mem_append_left _ ha, by omega, hz⟩
      · exact ⟨a, List.mem_append_right _ ha, by omega, hz⟩
    · rintro ⟨a, ha, hapos, hz⟩
      -- an entry at the larger offset stands at the offset of its own record, which is then the larger one
      rcases List.mem_append.1 ha with ha | ha
      · have := hle a ha
        exact .inl ⟨by omega, a, ha, by omega, hz⟩
      · have := hle' a ha
        exact .inr ⟨by omega, a, ha, by omega, hz⟩

theorem append {r r' : List Furthest} {w w' : Option Furthest} (h : IsFurthest r w) (h' : IsFurthest r' w') :
    IsFurthest (r ++ r') (Furthest.merge w w') := by
  cases w with
  | none =>
    obtain rfl : r = [] := h
    simpa using h'
  | some f =>
    cases w' with
    | none =>
      obtain rfl : r' = [] := h'
      simpa using h
    | some g => exact h.absorb h'

end IsFurthest

/-- A step whose witness is what the failures on record come to. -/
def Step.Tracks (record : List Furthest) : Step α → Prop
  | success _ _ w => IsFurthest record w
  | fail _ w => IsFurthest record (some w)
  | error _ => True

namespace Step

theorem tracks_outline {record : List Furthest} {step : Step α} : step.outline.Tracks record ↔ step.Tracks record := by
  cases step <;> rfl

theorem Tracks.aggregate {r r' : List Furthest} {w : Option Furthest} {step : Step α} (h : IsFurthest r w)
    (h' : step.Tracks r') : (step.aggregate w).Tracks (r ++ r') := by
  cases step with
  | success v next f =>
    rw [aggregate_success, Furthest.merge_comm]
    exact h.append h'
  | fail q f =>
    have hf : IsFurthest r' (some f) := h'
    have hboth := h.append hf
    rwa [Furthest.merge_comm] at hboth
  | error e => trivial

end Step

theorem tracks_leaf [DecidableEq ι] {s : Stream ι} {pos : Nat} {l : Leaf ι α} (hl : l.IsOffered) :
    (l.step s pos).Tracks (failures (l.step s pos).news) := by
  have houtcome := Leaf.outcome_step hl s pos
  generalize l.step s pos = step at houtcome ⊢
  cases houtcome with
  | done v next _ => rfl
  | failed d => exact IsFurthest.singleton _
  | error e _ => trivial

def tracking [DecidableEq ι] (s : Stream ι) : RunInvariant (.witnessed ι) s where
  Holds _ step t := step.Tracks (failures t)
  start := rfl
  leaf hl := Step.tracks_outline.2 (tracks_leaf hl)
  fails w := IsFurthest.singleton w
  raises _ := trivial
  run h := by simpa [failures] using h
  tell h := by simpa [failures] using h
  after h h' := by
    rw [failures_append]
    exact Step.Tracks.aggregate h h'
  retry h h' := by
    rw [failures_append]
    exact Step.Tracks.aggregate h h'
  stay h := h
  forget hF := hF.elim
  recover hF := hF.elim

section Runs

variable [DecidableEq ι] {d : Declarations ι Γ} {g : Grammar ι Γ α} {budget : Nat} {s : Stream ι} {pos : Nat}

/-- **The witness of a run is exact.** A run that comes back does so with a record, too, and its witness is what the
failures on record come to. -/
theorem witness_exact (hd : d.Within (.witnessed ι)) (hg : g.Within (.witnessed ι)) {step : Step α}
    (hrun : d.runAt budget g s pos = some step) :
    ∃ events : Array Event, (d.runAt budget g s pos : Recorded (Step α)) #[] = some (step, events) ∧
      step.Tracks (failures events.toList) := by
  obtain ⟨events, hrecorded⟩ := exists_recorded hrun
  obtain ⟨new, hevents, htracks⟩ := (tracking s).yields_runAt hd hg budget pos _ _ _ hrecorded
  obtain rfl : events.toList = new := by simpa using hevents
  exact ⟨events, hrecorded, Step.tracks_outline.1 htracks⟩

end Runs

/-- Both branches fail behind the second letter, where each expects its own letter. -/
theorem witness_exact_accents :
    Declarations.accents.Within (.witnessed Char) ∧ Grammar.accents.Within (.witnessed Char) ∧
    ∃ events : Array Event,
      (Declarations.accents.runAt 3 Grammar.accents (.ofString "ééx") 0 : Recorded (Step String)) #[]
        = some (.fail 0 ⟨4, (Keyed.single "é").insert "ü"⟩, events) ∧
      IsFurthest (failures events.toList) (some ⟨4, (Keyed.single "é").insert "ü"⟩) := by
  have hd : Declarations.accents.Within (.witnessed Char) := Declarations.accents_within fun _ _ => trivial
  have hg : Grammar.accents.Within (.witnessed Char) := Grammar.accents_within fun _ _ => trivial
  have hrun : Declarations.accents.runAt 3 Grammar.accents (.ofString "ééx") 0
      = some (.fail 0 ⟨4, (Keyed.single "é").insert "ü"⟩ : Step String) := by decide
  exact ⟨hd, hg, witness_exact hd hg hrun⟩

end Descent
