import Descent.Proofs.Outcome
import Descent.Proofs.Parallel
import Descent.Proofs.Record
import Descent.Proofs.Visits

/-!
# Runs are made of runs

The record of a run consists of the records of its parts, one after another, and of little else (`Visit.record_eq`).
What the run adds itself stands behind them, and there are three ways to come to it (`Ending`): no part came back with
an error, and neither does the run; the last part came back with one, which is that of the run; no part did, and the run
raises one itself. A run that gives up has no part that came back with an error.

`Makes` says this of any recorded run. It is shown for each combinator by following its parts: `Makes.part` runs the
next one, and is left to say what the combinator makes of its step.
-/

namespace Descent

variable {ι : Type} [Item ι] {Γ : Nat → Type} {α β ρ : Type}

namespace Step

@[simp] theorem error?_map (f : α → β) (step : Step α) : (step.map f).error? = step.error? := by
  cases step <;> rfl

@[simp] theorem error?_aggregate (w : Option Furthest) (step : Step α) : (step.aggregate w).error? = step.error? := by
  cases step <;> rfl

theorem error?_eq_some_iff {step : Step α} {e : DefinitionError} : step.error? = some e ↔ step = .error e := by
  cases step <;> simp [error?]

end Step

/-- An event that tells of a step without an error. -/
def Event.IsAside : Event → Prop
  | .failed _ | .debugged _ => True
  | _ => False

variable [DecidableEq ι] {d : Declarations ι Γ} {s : Stream ι}

def Visit.record (d : Declarations ι Γ) (s : Stream ι) (v : Visit ι Γ) : List Event :=
  d.record v.budget v.grammar s v.pos

/-- How a run ends that is made of parts: with an error or without, and with events of its own. -/
inductive Ending (d : Declarations ι Γ) (s : Stream ι) (R : DefinitionError → Prop) :
    List (Visit ι Γ) → Option DefinitionError → List Event → Prop
  | calm {parts : List (Visit ι Γ)} {own : List Event} (hparts : ∀ v ∈ parts, v.error? d s = none)
      (hown : ∀ x ∈ own, x.IsAside) : Ending d s R parts none own
  | passed {parts : List (Visit ι Γ)} {v : Visit ι Γ} {e : DefinitionError} {own : List Event}
      (hparts : ∀ v ∈ parts, v.error? d s = none) (hv : v.error? d s = some e)
      (hown : ∀ x ∈ own, ∃ line, x = .debugged line) : Ending d s R (parts ++ [v]) (some e) own
  | raised {parts : List (Visit ι Γ)} {e : DefinitionError} (hparts : ∀ v ∈ parts, v.error? d s = none)
      (he : R e) : Ending d s R parts (some e) [.raised e]

theorem Ending.cons {R : DefinitionError → Prop} {v : Visit ι Γ} {parts : List (Visit ι Γ)}
    {error : Option DefinitionError} {own : List Event} (hv : v.error? d s = none)
    (h : Ending d s R parts error own) : Ending d s R (v :: parts) error own := by
  cases h with
  | calm hparts hown => exact .calm (List.forall_mem_cons.2 ⟨hv, hparts⟩) hown
  | @passed parts _ _ _ hparts hlast hown =>
    rw [← List.cons_append]
    exact .passed (List.forall_mem_cons.2 ⟨hv, hparts⟩) hlast hown
  | raised hparts he => exact .raised (List.forall_mem_cons.2 ⟨hv, hparts⟩) he

/-- Whether the events `t` are those of some parts with what a run adds that ends like this. -/
def Composed (d : Declarations ι Γ) (s : Stream ι) (R : DefinitionError → Prop) (parts : List (Visit ι Γ))
    (error : Option DefinitionError) (t : List Event) : Prop :=
  ∃ own, t = parts.flatMap (Visit.record d s) ++ own ∧ Ending d s R parts error own

namespace Composed

variable {R : DefinitionError → Prop} {v : Visit ι Γ} {parts : List (Visit ι Γ)} {error : Option DefinitionError}
  {t own : List Event}

theorem aside (hown : ∀ x ∈ own, x.IsAside) : Composed d s R [] none own := ⟨own, rfl, .calm nofun hown⟩

theorem raised {e : DefinitionError} (he : R e) : Composed d s R [] (some e) [.raised e] :=
  ⟨_, rfl, .raised nofun he⟩

theorem cons (hv : v.error? d s = none) (h : Composed d s R parts error t) :
    Composed d s R (v :: parts) error (v.record d s ++ t) := by
  obtain ⟨own, rfl, hending⟩ := h
  exact ⟨own, by simp, hending.cons hv⟩

theorem last {e : DefinitionError} (hv : v.error? d s = some e) (hown : ∀ x ∈ own, ∃ line, x = .debugged line) :
    Composed d s R [v] (some e) (v.record d s ++ own) := by
  have hending : Ending d s R ([] ++ [v]) (some e) own := .passed nofun hv hown
  exact ⟨own, by simp, hending⟩

end Composed

/-! ## Errors of the run itself -/

/-- Whether the error is that of a repetition without a greatest number, in which the item stood still. -/
def StandsStill (d : Declarations ι Γ) (s : Stream ι) (n : Nat) (b : Bounds) (g : Grammar ι Γ α)
    (parts : List (Visit ι Γ)) (e : DefinitionError) : Prop :=
  b.max = none ∧ ∃ q v w, e = .emptyLoop q ∧ ⟨n, g, q⟩ ∈ parts ∧ d.runAt n g s q = some (.success v q w)

/-- Whether a visit itself raises an error: a leaf, a reference to what has not been resolved, a repetition without
a greatest number that stands still, or a mark whose start or end is out of range. -/
def Visit.Raises (d : Declarations ι Γ) (s : Stream ι) : Visit ι Γ → DefinitionError → Prop
  | ⟨_, .leaf l, pos⟩, e => l.step s pos = .error e
  | ⟨_, .ref slot, _⟩, e => d.body? slot = none ∧ e = .unresolved
  | ⟨n, .mark g, pos⟩, e =>
    ∃ v next w, d.runAt n g s pos = some (.success v next w) ∧
      ∃ q, (q = pos ∨ q = next) ∧ s.isBoundary q = false ∧ e = .outOfRange q s.length
  | ⟨n, .times b g, pos⟩, e => StandsStill d s n b g (d.timesParts s n b g (b.allowance n) 0 pos) e
  | ⟨n, .repeatUntil b _ g stop, pos⟩, e =>
    StandsStill d s n b g (d.untilParts s n b g stop (b.allowance n) 0 pos) e
  | _, _ => False

/-! ## Following the parts -/

section Parts

variable {R : DefinitionError → Prop} {n : Nat} {g : Grammar ι Γ α} {q : Nat} {step : Step α}
  {rest : List (Visit ι Γ)}

theorem error?_of_runAt (h : d.runAt n g s q = some step) : (⟨n, g, q⟩ : Visit ι Γ).error? d s = step.error? := by
  rw [Visit.error?, Visit.step, h, Option.bind_some]

theorem yields_part (n : Nat) (g : Grammar ι Γ α) (q : Nat) :
    Yields (Parser.run (g.parser n (d.call n)) s q) fun step t =>
      d.runAt n g s q = some step ∧ (⟨n, g, q⟩ : Visit ι Γ).record d s = t := by
  intro before step after hrun
  change (d.runAt n g s q : Recorded (Step α)) before = some (step, after) at hrun
  rw [runAt_recorded] at hrun
  obtain ⟨step', hplain, heq⟩ := Option.map_eq_some_iff.1 hrun
  obtain ⟨rfl, rfl⟩ := Prod.mk.inj heq
  exact ⟨d.record n g s q, by simp, hplain, rfl⟩

/-- A run that makes these visits: it adds their records, or gives up after visits without an error. -/
structure Makes (d : Declarations ι Γ) (s : Stream ι) (R : DefinitionError → Prop) (parts : List (Visit ι Γ))
    (x : Recorded (Step β)) : Prop where
  yields : Yields x fun step t => Composed d s R parts step.error? t
  calm : ∀ before, x before = none → ∀ u ∈ parts, u.error? d s = none

/-- A run that comes back with an error at once, after some lines of labelled parsers. -/
def Passes (e : DefinitionError) (x : Recorded (Step β)) : Prop :=
  ∃ own : Array Event, (∀ y ∈ own, ∃ line, y = .debugged line) ∧ ∀ before, x before = some (.error e, before ++ own)

/-- A run that goes on after a step of a part, with the visits `rest`: an error is passed on. -/
def Follows (d : Declarations ι Γ) (s : Stream ι) (R : DefinitionError → Prop) (rest : List (Visit ι Γ))
    (x : Recorded (Step β)) : Step α → Prop
  | .error e => rest = [] ∧ Passes e x
  | _ => Makes d s R rest x

theorem Passes.pure {e : DefinitionError} : Passes e (pure (.error e) : Recorded (Step β)) :=
  ⟨#[], by simp, fun _ => congrArg some (Prod.ext rfl Array.append_empty.symm)⟩

theorem Passes.debugged {e : DefinitionError} (line : String) :
    Passes e (note (.debugged line) >>= fun _ => Pure.pure (.error e) : Recorded (Step β)) :=
  ⟨#[.debugged line], by simp, fun _ => rfl⟩

namespace Makes

theorem pure {step : Step β} (h : step.error? = none) : Makes d s R [] (pure step) where
  yields := .pure (h ▸ .aside nofun)
  calm _ _ := by simp

theorem tell (x : Event) (hx : x.IsAside) {step : Step β} (h : step.error? = none) :
    Makes d s R [] (note x >>= fun _ => Pure.pure step) where
  yields := .note (.pure (h ▸ .aside (by simpa using hx)))
  calm _ _ := by simp

theorem fails (w : Furthest) : Makes d s R [] (Parser.fails w : Recorded (Step β)) :=
  .tell (.failed w) trivial rfl

theorem raises {e : DefinitionError} (he : R e) :
    Makes d s R [] (Parser.raises e : Recorded (Step β)) where
  yields := .note (.pure (.raised he))
  calm _ _ := by simp

theorem giveUp : Makes d s R [] (giveUp : Recorded (Step β)) where
  yields := .giveUp
  calm _ _ := by simp

theorem map {parts : List (Visit ι Γ)} {x : Recorded (Step α)} {f : Step α → Step β} (hx : Makes d s R parts x)
    (hf : ∀ step, (f step).error? = step.error?) :
    Makes d s R parts (x >>= fun step => Pure.pure (f step)) where
  yields := .bind hx.yields fun step t h => .pure (by rwa [hf, List.append_nil])
  calm before hnone := by
    cases hrun : x before with
    | none => exact hx.calm before hrun
    | some a =>
      change (x before).bind (fun a => some (f a.1, a.2)) = none at hnone
      rw [hrun] at hnone
      cases hnone

theorem part {f : Step α → Recorded (Step β)} (hgiveUp : d.runAt n g s q = none → rest = [])
    (h : ∀ step, d.runAt n g s q = some step → Follows d s R rest (f step) step) :
    Makes d s R (⟨n, g, q⟩ :: rest) (Parser.run (g.parser n (d.call n)) s q >>= f) where
  yields := by
    refine .bind (yields_part n g q) fun step t ⟨hstep, ht⟩ => ?_
    subst ht
    have hfollows := h step hstep
    cases step with
    | success v next w => exact hfollows.yields.mono fun _ _ hrest => .cons (error?_of_runAt hstep) hrest
    | fail r w => exact hfollows.yields.mono fun _ _ hrest => .cons (error?_of_runAt hstep) hrest
    | error e =>
      obtain ⟨rfl, own, hown, hx⟩ := hfollows
      intro before step after hrun
      obtain ⟨rfl, rfl⟩ := Prod.mk.inj (Option.some.inj ((hx before).symm.trans hrun))
      exact ⟨own.toList, by simp, .last (error?_of_runAt hstep) (by simpa using hown)⟩
  calm := by
    intro before hnone
    change ((d.runAt n g s q : Recorded (Step α)) before).bind (fun a => f a.1 a.2) = none at hnone
    rw [runAt_recorded] at hnone
    cases hstep : (d.runAt n g s q : Option (Step α)) with
    | none =>
      rw [hgiveUp hstep]
      simp [Visit.error?, Visit.step, hstep]
    | some step =>
      rw [hstep] at hnone
      have hfollows := h step hstep
      cases step with
      | success v next w => exact List.forall_mem_cons.2 ⟨error?_of_runAt hstep, hfollows.calm _ hnone⟩
      | fail r w => exact List.forall_mem_cons.2 ⟨error?_of_runAt hstep, hfollows.calm _ hnone⟩
      | error e =>
        obtain ⟨rfl, own, hown, hx⟩ := hfollows
        rw [Option.map_some, Option.bind_some, hx] at hnone
        cases hnone

theorem last {f : Step α → Step β} (hf : ∀ step, (f step).error? = step.error?) :
    Makes d s R [⟨n, g, q⟩] (Parser.run (g.parser n (d.call n)) s q >>= fun step => Pure.pure (f step)) := by
  refine .part (fun _ => rfl) fun step hstep => ?_
  cases step with
  | success v next w => exact .pure (hf _)
  | fail r w => exact .pure (hf _)
  | error e =>
    have herror : f (.error e) = .error e := Step.error?_eq_some_iff.1 (hf (.error e))
    exact ⟨rfl, herror ▸ .pure⟩

end Makes

end Parts

/-! ## Rows, choices and routines -/

section Loops

variable (R : DefinitionError → Prop) (n : Nat)

theorem makes_row (gs : List (Grammar ι Γ α)) (values : Array α) (pos : Nat) (seen : Option Furthest) :
    Makes d s R (d.rowParts s n gs pos)
      (Parser.seqFrom s (gs.map fun g => g.parser n (d.call n)) values pos seen) := by
  induction gs generalizing values pos seen with
  | nil => exact .pure rfl
  | cons g gs ih =>
    refine .part (fun h => by rw [h]) fun step hstep => ?_
    rw [hstep]
    cases step with
    | success v next w => exact ih _ next _
    | fail q w => exact .pure rfl
    | error e => exact ⟨rfl, .pure⟩

theorem makes_choice (gs : List (Grammar ι Γ α)) (pos failedAt : Nat) (seen : Option Furthest) :
    Makes d s R (d.choiceParts s n pos gs)
      (Parser.altFrom s pos (gs.map fun g => g.parser n (d.call n)) failedAt seen) := by
  induction gs generalizing failedAt seen with
  | nil =>
    cases seen with
    | none => exact .fails _
    | some w => exact .pure rfl
  | cons g gs ih =>
    refine .part (fun h => by rw [h]) fun step hstep => ?_
    rw [hstep]
    cases step with
    | success v next w => exact .pure rfl
    | fail q w => exact ih q _
    | error e => exact ⟨rfl, .pure⟩

theorem makes_routine (turn : ρ → Option α → ρ × Move β) (asked : ρ → Option α → Grammar ι Γ α)
    (rest : ρ → Option α → Grammar ι Γ β) (turns : Nat) (state : ρ) (last : Option α) (pos : Nat)
    (seen : Option Furthest) :
    Makes d s R (d.routineParts s n turn asked rest turns state last pos)
      (Parser.generateFrom (fun state last =>
          match turn state last with
          | (state', .ask) => (state', .ask ((asked state last).parser n (d.call n)))
          | (state', .answer v) => (state', .answer v)
          | (state', .handOver) => (state', .handOver ((rest state last).parser n (d.call n))))
        s turns state last pos seen) := by
  induction turns generalizing state last pos seen with
  | zero => exact .giveUp
  | succ k ih =>
    rw [Parser.generateFrom, Declarations.routineParts]
    rcases turn state last with ⟨state', move⟩
    cases move with
    | ask =>
      refine .part (fun h => by rw [h]) fun step hstep => ?_
      rw [hstep]
      cases step with
      | success v next w => exact ih state' (some v) next _
      | fail q w => exact .pure rfl
      | error e => exact ⟨rfl, .pure⟩
    | answer v => exact .pure rfl
    | handOver => exact .last fun step => step.error?_aggregate seen

end Loops

/-! ## Repetition -/

section Repetition

variable {n : Nat} {b : Bounds} {g : Grammar ι Γ α} {stop : Grammar ι Γ β} {all : List (Visit ι Γ)}

theorem makes_timesEnd (R : DefinitionError → Prop) (b : Bounds) (values : Array α) (pos : Nat)
    (seen : Option Furthest) : Makes d s R [] (Parser.timesEnd b values pos seen) := by
  rw [Parser.timesEnd]
  split_ifs
  · exact .map (.fails _) fun step => step.error?_aggregate seen
  · exact .pure rfl

theorem standsStill_of_stalls {count pos next : Nat} {v : α} {w : Option Furthest}
    (hstall : Parser.stalls b count pos next = true) (hmem : ⟨n, g, pos⟩ ∈ all)
    (hrun : d.runAt n g s pos = some (.success v next w)) : StandsStill d s n b g all (.emptyLoop pos) := by
  simp only [Parser.stalls, Bool.and_eq_true, beq_iff_eq, Option.isNone_iff_eq_none] at hstall
  obtain ⟨⟨rfl, hmax⟩, -⟩ := hstall
  exact ⟨hmax, next, v, w, rfl, hmem, hrun⟩

/-- The rest of a repetition; `all` are the parts of the whole, among which an item that stands still is found. -/
theorem makes_times (allowance : Nat) (values : Array α) (pos : Nat) (seen : Option Furthest)
    (hall : ∀ u ∈ d.timesParts s n b g allowance values.size pos, u ∈ all) :
    Makes d s (StandsStill d s n b g all) (d.timesParts s n b g allowance values.size pos)
      (Parser.timesFrom b (g.parser n (d.call n)) s allowance values pos seen) := by
  induction allowance generalizing values pos seen with
  | zero =>
    rw [Parser.timesFrom]
    split_ifs
    · exact .giveUp
    · exact makes_timesEnd _ b values pos seen
  | succ k ih =>
    refine .part (fun h => by rw [h]) fun step hstep => ?_
    rw [Declarations.timesParts, hstep] at hall
    rw [hstep]
    cases step with
    | success v next w =>
      simp only at hall ⊢
      split_ifs at hall ⊢ with hstall
      · exact .raises (standsStill_of_stalls hstall (hall _ (List.mem_cons_self ..)) hstep)
      · rw [← Array.size_push v] at hall ⊢
        exact ih (values.push v) next _ fun u hu => hall u (List.mem_cons_of_mem _ hu)
    | fail q w =>
      simp only
      split_ifs
      · exact .pure rfl
      · exact makes_timesEnd _ b values pos _
    | error e => exact ⟨rfl, .pure⟩

theorem makes_untilItem {R : DefinitionError → Prop} {parts : Nat → List (Visit ι Γ)}
    {go : Array α → Nat → Option Furthest → Recorded (Step (List α))} {missed : Option Furthest} {values : Array α}
    {pos : Nat} {seen : Option Furthest} (hmax : b.max.filter (· ≤ values.size) = none)
    (hraises : ∀ v next w, d.runAt n g s pos = some (.success v next w) →
      Parser.stalls b values.size pos next = true → R (.emptyLoop pos))
    (hgo : ∀ v next w, d.runAt n g s pos = some (.success v next w) →
      ¬ Parser.stalls b values.size pos next = true →
      Makes d s R (parts next) (go (values.push v) next (Furthest.merge seen w))) :
    Makes d s R
      (⟨n, g, pos⟩ ::
        match (d.runAt n g s pos : Option (Step α)) with
        | some (.success _ next _) => if Parser.stalls b values.size pos next then [] else parts next
        | _ => [])
      (Parser.untilItem b (g.parser n (d.call n)) s (some go) missed values pos seen) := by
  unfold Parser.untilItem
  rw [hmax]
  refine .part (fun h => by rw [h]) fun step hstep => ?_
  rw [hstep]
  cases step with
  | success v next w =>
    simp only
    split_ifs with hstall
    · exact .raises (hraises v next w hstep hstall)
    · exact hgo v next w hstep hstall
  | fail q w =>
    simp only
    split_ifs
    · exact .pure rfl
    · exact .fails _
  | error e => exact ⟨rfl, .pure⟩

theorem makes_untilItem_full {R : DefinitionError → Prop} {p : Parser Recorded ι α}
    {again : Option (Array α → Nat → Option Furthest → Recorded (Step (List α)))} {missed : Option Furthest}
    {values : Array α} {pos : Nat} {seen : Option Furthest} {max : Nat}
    (hmax : b.max.filter (· ≤ values.size) = some max) :
    Makes d s R [] (Parser.untilItem b p s again missed values pos seen) := by
  unfold Parser.untilItem
  rw [hmax]
  exact .fails _

theorem makes_untilTurn {R : DefinitionError → Prop} {keep : β → Option α} {p : Parser Recorded ι α}
    {again : Option (Array α → Nat → Option Furthest → Recorded (Step (List α)))} {values : Array α} {pos : Nat}
    {seen : Option Furthest} {items : List (Visit ι Γ)}
    (hitem : ∀ missed, Declarations.itemFollows b values.size (d.runAt n stop s pos : Option (Step β))
        = (b.max.filter (· ≤ values.size)).isNone →
      Makes d s R (if (b.max.filter (· ≤ values.size)).isNone then items else [])
        (Parser.untilItem b p s again missed values pos seen)) :
    Makes d s R
      (⟨n, stop, pos⟩ ::
        if Declarations.itemFollows b values.size (d.runAt n stop s pos : Option (Step β)) then items else [])
      (Parser.untilTurn b keep p (stop.parser n (d.call n)) s again values pos seen) := by
  refine .part (fun h => by rw [h]; rfl) fun halt hhalt => ?_
  rw [hhalt] at hitem ⊢
  cases halt with
  | success u next w =>
    by_cases hmin : b.min ≤ values.size
    · rw [Declarations.itemFollows_of_le u next w hmin]
      simp only [if_pos hmin]
      cases keep u with
      | none => exact .pure rfl
      | some v => exact .pure rfl
    · have hfollows := Declarations.itemFollows_of_lt u next w (Nat.lt_of_not_le hmin)
      rw [hfollows]
      simp only [if_neg hmin]
      exact hitem none hfollows
  | fail q w => exact hitem (some w) rfl
  | error e => exact ⟨rfl, .pure⟩

theorem makes_until (keep : β → Option α) (allowance : Nat) (values : Array α) (pos : Nat)
    (seen : Option Furthest) (hall : ∀ u ∈ d.untilParts s n b g stop allowance values.size pos, u ∈ all) :
    Makes d s (StandsStill d s n b g all) (d.untilParts s n b g stop allowance values.size pos)
      (Parser.untilFrom b keep (g.parser n (d.call n)) (stop.parser n (d.call n)) s allowance values pos seen) := by
  induction allowance generalizing values pos seen with
  | zero =>
    -- the budget is spent: only the terminator is run, and a run that is left to the item gives up
    have hitem (missed : Option Furthest) : Makes d s (StandsStill d s n b g all) []
        (Parser.untilItem b (g.parser n (d.call n)) s none missed values pos seen) := by
      cases hmax : b.max.filter (· ≤ values.size) with
      | some max => exact makes_untilItem_full hmax
      | none =>
        unfold Parser.untilItem
        rw [hmax]
        exact .giveUp
    have hturn : Makes d s (StandsStill d s n b g all)
        (⟨n, stop, pos⟩ ::
          if Declarations.itemFollows b values.size (d.runAt n stop s pos : Option (Step β)) then [] else [])
        (Parser.untilTurn b keep (g.parser n (d.call n)) (stop.parser n (d.call n)) s none values pos seen) :=
      makes_untilTurn fun missed _ => by
        rw [ite_self]
        exact hitem missed
    rwa [ite_self] at hturn
  | succ k ih =>
    rw [Parser.untilFrom]
    rw [Declarations.untilParts] at hall ⊢
    refine makes_untilTurn fun missed hfollows => ?_
    -- a repetition that is full fails before it comes to the item
    cases hmax : b.max.filter (· ≤ values.size) with
    | some max => exact makes_untilItem_full hmax
    | none =>
      rw [hfollows, hmax] at hall
      obtain ⟨-, hitem, hrest⟩ := by simpa using hall
      refine makes_untilItem hmax (fun v next w hrun hstall => ?_) fun v next w hrun hstall => ?_
      · exact standsStill_of_stalls hstall hitem hrun
      · rw [hrun] at hrest
        simp only [if_neg hstall] at hrest
        rw [← Array.size_push v] at hrest ⊢
        exact ih (values.push v) next _ hrest

end Repetition

/-! ## Visits -/

theorem makes_call (n slot pos : Nat) :
    Makes d s (fun e => d.body? slot = none ∧ e = .unresolved) (d.callParts slot pos n) (d.call n slot s pos) := by
  cases hbody : d.body? slot with
  | none =>
    have hparts : d.callParts slot pos n = [] := by cases n <;> simp [Declarations.callParts, hbody]
    rw [Declarations.call_of_none hbody, hparts]
    exact .raises ⟨rfl, rfl⟩
  | some g =>
    cases n with
    | zero =>
      rw [Declarations.call_zero hbody]
      exact .giveUp
    | succ n =>
      rw [Declarations.call_succ hbody, Declarations.callParts, hbody, ← bind_pure (Parser.run _ s pos)]
      exact .last fun _ => rfl

theorem makes_parts (v : Visit ι Γ) :
    Makes d s (v.Raises d s) (v.parts d s) (v.grammar.parser v.budget (d.call v.budget) s v.pos) := by
  obtain ⟨n, g, pos⟩ := v
  cases g with
  | leaf l =>
    simp only [Grammar.parser]
    cases hl : l.step s pos with
    | success v next w => exact .pure rfl
    | fail q w => exact .tell (.failed w) trivial rfl
    | error e => exact .raises hl
  | ref slot => exact makes_call n slot pos
  | map f g => exact .last fun step => step.error?_map f
  | bind g f =>
    refine .part (fun h => by rw [h]) fun step hstep => ?_
    rw [hstep]
    cases step with
    | success v next w => exact .last fun step => step.error?_aggregate w
    | fail q w => exact .pure rfl
    | error e => exact ⟨rfl, .pure⟩
  | thenCombine f g h =>
    refine .part (fun h => by rw [h]) fun step hstep => ?_
    rw [hstep]
    cases step with
    | success v next w => exact .last fun step => by simp
    | fail q w => exact .pure rfl
    | error e => exact ⟨rfl, .pure⟩
  | row k gs =>
    have hrow := makes_row (d := d) (s := s) (Visit.Raises d s ⟨n, .row k gs, pos⟩) n (List.ofFn gs) #[] pos none
    rwa [List.map_ofFn] at hrow
  | choice k gs =>
    have hchoice := makes_choice (d := d) (s := s) (Visit.Raises d s ⟨n, .choice k gs, pos⟩) n (List.ofFn gs) pos pos
      none
    rwa [List.map_ofFn] at hchoice
  | desc text g =>
    refine .part (fun _ => rfl) fun step _ => ?_
    cases step with
    | success v next w => exact .pure rfl
    | fail q w =>
      simp only
      split_ifs
      · exact .fails _
      · exact .pure rfl
    | error e => exact ⟨rfl, .pure⟩
  | mark g =>
    refine .part (fun _ => rfl) fun step hstep => ?_
    cases step with
    | success v next w =>
      simp only
      split
      next => exact .pure rfl
      next e _ he =>
        obtain ⟨hbound, rfl⟩ := Stream.error_of_position he
        exact .raises ⟨v, next, w, hstep, pos, .inl rfl, hbound, rfl⟩
      next e he _ =>
        obtain ⟨hbound, rfl⟩ := Stream.error_of_position he
        exact .raises ⟨v, next, w, hstep, next, .inr rfl, hbound, rfl⟩
    | fail q w => exact .pure rfl
    | error e => exact ⟨rfl, .pure⟩
  | peek g =>
    refine .part (fun _ => rfl) fun step _ => ?_
    cases step with
    | success v next w => exact .pure rfl
    | fail q w => exact .pure rfl
    | error e => exact ⟨rfl, .pure⟩
  | shouldFail text g =>
    refine .part (fun _ => rfl) fun step _ => ?_
    cases step with
    | success v next w => exact .fails _
    | fail q w => exact .pure rfl
    | error e => exact ⟨rfl, .pure⟩
  | debug label inspect g =>
    refine .part (fun _ => rfl) fun step _ => ?_
    cases step with
    | success v next w => exact .tell (.debugged _) trivial rfl
    | fail q w => exact .tell (.debugged _) trivial rfl
    | error e => exact ⟨rfl, .debugged _⟩
  | times b g => exact makes_times _ #[] pos none fun u hu => hu
  | repeatUntil b keep g stop => exact makes_until keep _ #[] pos none fun u hu => hu
  | routine first turn asked rest => exact makes_routine _ n turn asked rest n first none pos none

/-- **Runs are made of runs.** The record of a run is that of its parts, in order, with what the run adds behind. -/
theorem Visit.record_eq (v : Visit ι Γ) {step : Step v.α} (hrun : v.step d s = some step) :
    ∃ own, v.record d s
        = .started v.pos :: ((v.parts d s).flatMap (Visit.record d s) ++ own ++ [.ended step.error?]) ∧
      Ending d s (v.Raises d s) (v.parts d s) step.error? own := by
  have hyields : Yields (d.runAt v.budget v.grammar s v.pos) fun step t =>
      ∃ own, t = .started v.pos :: ((v.parts d s).flatMap (Visit.record d s) ++ own ++ [.ended step.error?]) ∧
        Ending d s (v.Raises d s) (v.parts d s) step.error? own := by
    refine .note (.bind (makes_parts v).yields fun step t h => .note (.pure ?_))
    obtain ⟨own, rfl, hending⟩ := h
    exact ⟨own, rfl, hending⟩
  obtain ⟨events, hrecorded⟩ := exists_recorded hrun
  obtain ⟨new, hevents, h⟩ := hyields _ _ _ hrecorded
  obtain rfl : events.toList = new := by simpa using hevents
  rw [Visit.record, record_of_recorded hrecorded]
  exact h

theorem Visit.error?_of_mem_parts {v u : Visit ι Γ} (hrun : v.step d s = none) (hu : u ∈ v.parts d s) :
    u.error? d s = none := by
  have hrecorded : (d.runAt v.budget v.grammar s v.pos : Recorded (Step v.α)) #[] = none := by
    rw [runAt_recorded, show d.runAt v.budget v.grammar s v.pos = none from hrun]
    rfl
  change ((v.grammar.parser v.budget (d.call v.budget) s v.pos : Recorded (Step v.α)) #[.started v.pos]).bind
    (fun a => some (a.1, a.2.push (.ended a.1.error?))) = none at hrecorded
  cases hparser : (v.grammar.parser v.budget (d.call v.budget) s v.pos : Recorded (Step v.α)) #[.started v.pos] with
  | none => exact (makes_parts v).calm _ hparser u hu
  | some a =>
    rw [hparser] at hrecorded
    cases hrecorded

end Descent
