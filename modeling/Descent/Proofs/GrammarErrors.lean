import Descent.Proofs.Composition
import Descent.Proofs.Fragment
import Descent.Stream.Kinds

/-!
# Grammar errors are final

No combinator recovers from a grammar error, changes it or makes one up. In the record of a run nothing begins behind an
error (`Settled`): what is left are runs that end with it. An error of any visit in the course of a run is that of the
run (`Visit.error?_of_executes`), and an error of a run has been raised by a visit in its course
(`Visit.exists_raises`).
-/

namespace Descent

variable {ι : Type} [Item ι] {Γ : Nat → Type} [DecidableEq ι]

/-! ## What is on record around an error -/

def Event.IsCalm : Event → Prop
  | .raised _ | .ended (some _) => False
  | _ => True

/-- An event behind an error: a run ends with it, or a labelled parser tells of it. -/
def Event.Trails (e : DefinitionError) (x : Event) : Prop := x = .ended (some e) ∨ ∃ line, x = .debugged line

theorem Event.IsAside.isCalm {x : Event} (h : x.IsAside) : x.IsCalm := by
  cases x <;> trivial

/-- A record in which an error is final, and which tells of no error when there is none. -/
def Settled : Option DefinitionError → List Event → Prop
  | none, t => ∀ x ∈ t, x.IsCalm
  | some e, t =>
    ∃ before after, t = before ++ .raised e :: after ∧ (∀ x ∈ before, x.IsCalm) ∧ ∀ x ∈ after, x.Trails e

theorem Settled.raised (e : DefinitionError) : Settled (some e) [.raised e] := ⟨[], [], rfl, by simp, by simp⟩

theorem Settled.around {e : DefinitionError} {t before after : List Event} (h : Settled (some e) t)
    (hbefore : ∀ x ∈ before, x.IsCalm) (hafter : ∀ x ∈ after, x.Trails e) :
    Settled (some e) (before ++ t ++ after) := by
  obtain ⟨calm, trail, rfl, hcalm, htrail⟩ := h
  exact ⟨before ++ calm, trail ++ after, by simp, List.forall_mem_append.2 ⟨hbefore, hcalm⟩,
    List.forall_mem_append.2 ⟨htrail, hafter⟩⟩

theorem Settled.final {error : Option DefinitionError} {t before after : List Event} {e : DefinitionError}
    (h : Settled error t) (ht : t = before ++ .ended (some e) :: after) :
    error = some e ∧ ∀ x ∈ after, x.Trails e := by
  cases error with
  | none => exact (h (.ended (some e)) (by simp [ht])).elim
  | some e' =>
    obtain ⟨calm, trail, htrail, hcalm, htrails⟩ := h
    rw [htrail] at ht
    rcases List.append_eq_append_iff.1 ht with ⟨c, rfl, hc⟩ | ⟨c, rfl, hc⟩
    · -- the run ends behind the place where the error was raised
      cases c with
      | nil => cases hc
      | cons x c =>
        obtain ⟨rfl, rfl⟩ := List.cons.inj hc
        rcases htrails (.ended (some e)) (by simp) with hended | ⟨line, hline⟩
        · obtain rfl : e = e' := by simpa using hended
          exact ⟨rfl, fun x hx => htrails x (by simp [hx])⟩
        · cases hline
    · cases c with
      | nil => cases hc
      | cons x c =>
        obtain ⟨rfl, rfl⟩ := List.cons.inj hc
        exact (hcalm (.ended (some e)) (by simp)).elim

namespace Visit

variable {d : Declarations ι Γ} {s : Stream ι}

theorem calm_records {vs : List (Visit ι Γ)} (hcalm : ∀ v ∈ vs, v.error? d s = none)
    (hsettled : ∀ v ∈ vs, Settled (v.error? d s) (v.record d s)) (pos : Nat) :
    ∀ x ∈ .started pos :: vs.flatMap (record d s), x.IsCalm := by
  refine List.forall_mem_cons.2 ⟨trivial, fun x hx => ?_⟩
  obtain ⟨v, hv, hx⟩ := List.mem_flatMap.1 hx
  have h := hsettled v hv
  rw [hcalm v hv] at h
  exact h x hx

theorem record_of_giveUp {v : Visit ι Γ} (hrun : v.step d s = none) : v.record d s = [] := by
  rw [record, Declarations.record, runAt_recorded, show d.runAt v.budget v.grammar s v.pos = none from hrun]
  rfl

theorem settled_record (v : Visit ι Γ) : Settled (v.error? d s) (v.record d s) := by
  induction v using Visit.induct (d := d) (s := s) with
  | h v ih =>
    cases hrun : v.step d s with
    | none =>
      rw [error?, hrun, record_of_giveUp hrun]
      exact List.forall_mem_nil _
    | some step =>
      obtain ⟨own, hrecord, hending⟩ := v.record_eq hrun
      rw [error?, hrun, Option.bind_some, hrecord]
      generalize v.parts d s = parts at hending ih
      generalize step.error? = error at hending
      cases hending with
      | calm hparts hown =>
        have hbegin := calm_records hparts ih v.pos
        have hend : ∀ x ∈ own ++ [.ended none], x.IsCalm :=
          List.forall_mem_append.2 ⟨fun x hx => (hown x hx).isCalm, by simp [Event.IsCalm]⟩
        have hsettled : Settled none (_ ++ _) := List.forall_mem_append.2 ⟨hbegin, hend⟩
        simpa using hsettled
      | @passed parts u e own hparts hu hown =>
        have hbegin := calm_records hparts (fun u hu => ih u (List.mem_append_left _ hu)) v.pos
        have hend : ∀ x ∈ own ++ [.ended (some e)], x.Trails e :=
          List.forall_mem_append.2 ⟨fun x hx => .inr (hown x hx), by simp [Event.Trails]⟩
        have hlast := ih u (by simp)
        rw [hu] at hlast
        simpa using hlast.around hbegin hend
      | @raised parts e hparts he =>
        have hbegin := calm_records hparts ih v.pos
        have hend : ∀ x ∈ [Event.ended (some e)], x.Trails e := by simp [Event.Trails]
        simpa using (Settled.raised e).around hbegin hend

/-! ## Where errors come from -/

theorem final_of_ending {R : DefinitionError → Prop} {before after : List (Visit ι Γ)} {u : Visit ι Γ}
    {error : Option DefinitionError} {own : List Event} {e : DefinitionError} (hu : u.error? d s = some e)
    (h : Ending d s R (before ++ u :: after) error own) : error = some e ∧ after = [] := by
  have hmem : u ∈ before ++ u :: after := by simp
  generalize hall : before ++ u :: after = all at h hmem
  cases h with
  | calm hparts hown => exact absurd (hu.symm.trans (hparts u hmem)) nofun
  | @passed parts v e' own hparts hv hown =>
    rcases List.eq_nil_or_concat after with rfl | ⟨after, w, rfl⟩
    · obtain ⟨-, hlast⟩ := List.append_inj' hall rfl
      obtain rfl := List.singleton_inj.1 hlast
      exact ⟨hv.symm.trans hu, rfl⟩
    · -- a part with an error that is not the last would be among the others
      rw [List.concat_eq_append, ← List.cons_append, ← List.append_assoc] at hall
      obtain ⟨rfl, -⟩ := List.append_inj' hall rfl
      exact absurd (hu.symm.trans (hparts u (by simp))) nofun
  | raised hparts he => exact absurd (hu.symm.trans (hparts u hmem)) nofun

theorem error?_of_part {v u : Visit ι Γ} {before after : List (Visit ι Γ)} {e : DefinitionError}
    (hparts : v.parts d s = before ++ u :: after) (hu : u.error? d s = some e) :
    v.error? d s = some e ∧ after = [] := by
  have hmem : u ∈ v.parts d s := by simp [hparts]
  cases hrun : v.step d s with
  | none => exact absurd (hu.symm.trans (error?_of_mem_parts hrun hmem)) nofun
  | some step =>
    obtain ⟨own, -, hending⟩ := v.record_eq hrun
    rw [hparts] at hending
    rw [error?, hrun, Option.bind_some]
    exact final_of_ending hu hending

theorem error?_of_executes {v u : Visit ι Γ} (h : v.Executes d s u) {e : DefinitionError}
    (hu : u.error? d s = some e) : v.error? d s = some e := by
  induction h using Relation.ReflTransGen.head_induction_on with
  | refl => exact hu
  | head hpart _ ih =>
    obtain ⟨before, after, hparts⟩ := List.append_of_mem hpart
    exact (error?_of_part hparts ih).1

/-- An error of a visit has been raised by some visit in its course, none of whose own parts came back with one. -/
theorem exists_raises (v : Visit ι Γ) {e : DefinitionError} (h : v.error? d s = some e) :
    ∃ u, v.Executes d s u ∧ u.error? d s = some e ∧ (∀ w ∈ u.parts d s, w.error? d s = none) ∧ u.Raises d s e := by
  induction v using Visit.induct (d := d) (s := s) with
  | h v ih =>
    obtain ⟨step, hrun, herror⟩ := Option.bind_eq_some_iff.1 h
    obtain ⟨own, -, hending⟩ := v.record_eq hrun
    rw [herror] at hending
    generalize hparts : v.parts d s = parts at hending ih
    cases hending with
    | @passed parts u _ _ _ hu _ =>
      obtain ⟨w, hw, hraises⟩ := ih u (by simp) hu
      exact ⟨w, .head (by simp [hparts]) hw, hraises⟩
    | raised hcalm he =>
      rw [← hparts] at hcalm
      exact ⟨v, .refl, h, hcalm, he⟩

end Visit

/-- **Grammar errors are final.** In the record of a run, once a run has ended with an error, no other begins, and the
whole run comes back with it. So does a run in whose course a visit comes back with an error, and none of the parts of
a visit follows that one. An error of a run comes from a visit in its course whose parts came back without one: a leaf,
a reference, a repetition that stands still or a mark that is out of range (`Visit.Raises`). -/
theorem errors_are_final (d : Declarations ι Γ) (s : Stream ι) (v : Visit ι Γ) :
    (∀ step events before e after,
      (d.runAt v.budget v.grammar s v.pos : Recorded (Step v.α)) #[] = some (step, events) →
      events.toList = before ++ .ended (some e) :: after →
      step = .error e ∧ ∀ x ∈ after, x = .ended (some e) ∨ ∃ line, x = .debugged line) ∧
    (∀ u e, v.Executes d s u → u.error? d s = some e → v.error? d s = some e) ∧
    (∀ u e before after, v.parts d s = before ++ u :: after → u.error? d s = some e → after = []) ∧
    ∀ e, v.error? d s = some e →
      ∃ u, v.Executes d s u ∧ u.error? d s = some e ∧ (∀ w ∈ u.parts d s, w.error? d s = none) ∧ u.Raises d s e := by
  refine ⟨fun step events before e after hrun hevents => ?_, fun u e h hu => Visit.error?_of_executes h hu,
    fun u e before after hparts hu => (Visit.error?_of_part hparts hu).2, fun e h => v.exists_raises h⟩
  have hrecord : v.record d s = events.toList := record_of_recorded hrun
  obtain ⟨herror, htrails⟩ := v.settled_record.final (hrecord.trans hevents)
  rw [runAt_recorded] at hrun
  obtain ⟨step', hplain, heq⟩ := Option.map_eq_some_iff.1 hrun
  obtain rfl : step' = step := (Prod.mk.inj heq).1
  rw [Visit.error?, Visit.step, hplain, Option.bind_some] at herror
  exact ⟨Step.error?_eq_some_iff.1 herror, htrails⟩

/-- Behind the first letter, a reference turns out not to be resolved; the branch for the other letter is not tried. -/
theorem errors_are_final_accents :
    ∃ v u : Visit Char fun _ => String,
      v = ⟨3, Grammar.accents, 0⟩ ∧ v.Executes .none (.ofString "éü") u ∧
      u.error? .none (.ofString "éü") = some .unresolved ∧ v.error? .none (.ofString "éü") = some .unresolved ∧
      (∃ w, v.Executes .none (.ofString "éü") w ∧ w.error? .none (.ofString "éü") = some .unresolved ∧
        (∀ x ∈ w.parts .none (.ofString "éü"), x.error? .none (.ofString "éü") = none) ∧
        w.Raises .none (.ofString "éü") .unresolved) ∧
      ∃ events : Array Event,
        (Declarations.none.runAt 3 Grammar.accents (.ofString "éü") 0 : Recorded (Step String)) #[]
          = some (.error .unresolved, events) ∧
        events.toList.drop 8 = [.ended (some .unresolved), .ended (some .unresolved), .ended (some .unresolved)] ∧
        ∀ x ∈ events.toList.drop 9, x = .ended (some .unresolved) ∨ ∃ line, x = .debugged line := by
  let v : Visit Char fun _ => String := ⟨3, Grammar.accents, 0⟩
  let branch : Visit Char fun _ => String := ⟨3, .append (.literal "é") (.ref 0), 0⟩
  let u : Visit Char fun _ => String := ⟨3, .ref 0, 2⟩
  have hbranch : branch ∈ v.parts .none (.ofString "éü") := List.mem_cons_self ..
  have hu : u ∈ branch.parts .none (.ofString "éü") := List.mem_cons_of_mem _ (List.mem_singleton_self _)
  have hexecutes : v.Executes .none (.ofString "éü") u := .head hbranch (.single hu)
  have herror : u.error? .none (.ofString "éü") = some .unresolved := by decide
  obtain ⟨htrails, hexecuted, -, hraised⟩ := errors_are_final .none (.ofString "éü") v
  have hv : v.error? .none (.ofString "éü") = some .unresolved := hexecuted u .unresolved hexecutes herror
  have hrun : (Declarations.none.runAt 3 Grammar.accents (.ofString "éü") 0 : Recorded (Step String)) #[]
      = some (.error .unresolved,
        #[.started 0, .started 0, .started 0, .started 0, .ended none, .ended none, .started 2, .raised .unresolved,
          .ended (some .unresolved), .ended (some .unresolved), .ended (some .unresolved)]) := by decide
  refine ⟨v, u, rfl, hexecutes, herror, hv, hraised _ hv, _, hrun, rfl, ?_⟩
  exact (htrails _ _ [.started 0, .started 0, .started 0, .started 0, .ended none, .ended none, .started 2,
    .raised .unresolved] .unresolved _ hrun rfl).2

end Descent
