import Descent.Proofs.Budget
import Descent.Proofs.Parallel
import Descent.Proofs.Record
import Descent.Proofs.Turns

/-!
# The check for progress is exact

Without its check for progress (`Parser.timesWith .never`, `Parser.untilWith .never`) a repetition would go on for ever
exactly where the check is what ends it, and otherwise it comes back with the same step (`progress_check_exact`).

What a repetition does itself is read off the record of a run whose parts only tell that they run (`Parser.telling`): an
error that is raised there is its own, and the runs of its item are those that tell so.
-/

namespace Descent

variable {ι : Type} [Item ι] {α β γ : Type}

/-! ## Parsers that tell of their runs -/

/-- A parser given by its steps, each of whose runs leaves a line. -/
def Parser.telling {m : Type → Type} [Monitor m] (line : String) (steps : Stream ι → Nat → Step α) : Parser m ι α :=
  fun s pos => do
    note (.debugged line)
    pure (steps s pos)

/-- The events of a run of a parser that tells of its runs. -/
def told (line : String) (pos : Nat) (step : Step α) : List Event :=
  [.started pos, .debugged line, .ended step.error?]

section Telling

variable {line : String} {steps : Stream ι → Nat → Step α} {s : Stream ι} {pos : Nat}

theorem run_telling : Parser.run (.telling line steps) s pos = some (steps s pos) := rfl

theorem alongside_telling (s : Stream ι) (line : String) (steps : Stream ι → Nat → Step α) :
    Alongside 0 s s (.telling line steps) (.telling line steps) := by
  intro pos
  rw [Nat.zero_add]
  exact .note (Alongside.both (Step.shift_zero _).symm)

theorem Yields.telling {f : Step α → Recorded β} {Q : β → List Event → Prop}
    (h : Yields (f (steps s pos)) fun b more => Q b (told line pos (steps s pos) ++ more)) :
    Yields (Parser.run (.telling line steps) s pos >>= f) Q := by
  have hsteps : Yields (Parser.telling line steps s pos : Recorded (Step α))
      fun step new => step = steps s pos ∧ new = [.debugged line] := .note (.pure ⟨rfl, rfl⟩)
  have hrun : Yields (Parser.run (.telling line steps) s pos : Recorded (Step α))
      fun step new => step = steps s pos ∧ new = told line pos (steps s pos) := by
    refine .note (.bind hsteps fun step new hstep => .note (.pure ?_))
    obtain ⟨rfl, rfl⟩ := hstep
    exact ⟨rfl, rfl⟩
  refine .bind hrun fun step new hstep => ?_
  obtain ⟨rfl, rfl⟩ := hstep
  exact h

end Telling

def itemRuns (events : List Event) : Nat := events.count (.debugged "item")

theorem itemRuns_append (t t' : List Event) : itemRuns (t ++ t') = itemRuns t + itemRuns t' := List.count_append

@[simp] theorem itemRuns_told_item (pos : Nat) (step : Step α) : itemRuns (told "item" pos step) = 1 := by
  simp [itemRuns, told]

@[simp] theorem itemRuns_told_terminator (pos : Nat) (step : Step α) : itemRuns (told "terminator" pos step) = 0 := by
  simp [itemRuns, told]

/-! ## Repetitions without the check -/

/-- The rest of a repetition without its check for progress, with a number of turns to make. -/
def freeTimes (b : Bounds) (item : Stream ι → Nat → Step α) (s : Stream ι) (turns : Nat) (values : Array α)
    (pos : Nat) (seen : Option Furthest) : Option (Step (List α)) :=
  Parser.timesWith .never b (.telling "item" item) s turns values pos seen

def freeUntil (b : Bounds) (keep : β → Option α) (item : Stream ι → Nat → Step α)
    (terminator : Stream ι → Nat → Step β) (s : Stream ι) (turns : Nat) (values : Array α) (pos : Nat)
    (seen : Option Furthest) : Option (Step (List α)) :=
  Parser.untilWith .never b keep (.telling "item" item) (.telling "terminator" terminator) s turns values pos seen

/-- What the item's turn comes to up to a terminator: a success is followed by `go`. -/
def freeItem (b : Bounds) (step : Step α) (missed : Option Furthest)
    (go : Array α → Nat → Option Furthest → Option (Step (List α))) (values : Array α) (pos : Nat)
    (seen : Option Furthest) : Option (Step (List α)) :=
  match step with
  | .success v next w => go (values.push v) next (Furthest.merge seen w)
  | .fail q w =>
    if b.min ≤ values.size then some (.fail q ((w.absorb missed).absorb seen))
    else Parser.fails (.of pos s!"at least {b.min} items; got {values.size} item(s)")
  | .error e => some (.error e)

section Free

variable {b : Bounds} {keep : β → Option α} {item : Stream ι → Nat → Step α}
  {terminator : Stream ι → Nat → Step β} {s : Stream ι} {pos : Nat}

theorem freeTimes_zero (hmax : b.max = none) (values : Array α) (seen : Option Furthest) :
    freeTimes b item s 0 values pos seen = none := by
  rw [freeTimes, Parser.timesWith, if_pos (by simp [hmax])]
  rfl

theorem freeTimes_succ (n : Nat) (values : Array α) (seen : Option Furthest) :
    freeTimes b item s (n + 1) values pos seen
      = match item s pos with
        | .success v next w => freeTimes b item s n (values.push v) next (Furthest.merge seen w)
        | .fail q w =>
          if values.size < b.min then some (Step.fail q (w.absorb seen))
          else Parser.timesEnd b values pos (Furthest.merge seen (some w))
        | .error e => some (.error e) := by
  rw [freeTimes, Parser.timesWith, run_telling]
  cases item s pos <;> rfl

theorem freeUntil_zero_of_fail (hmax : b.max = none) {q : Nat} {w : Furthest} (hstop : terminator s pos = .fail q w)
    (values : Array α) (seen : Option Furthest) : freeUntil b keep item terminator s 0 values pos seen = none := by
  rw [freeUntil, Parser.untilWith, Parser.untilTurnWith, run_telling, hstop]
  simp [Parser.untilItemWith, hmax]

theorem freeUntil_succ_of_fail (hmax : b.max = none) {q : Nat} {w : Furthest} (hstop : terminator s pos = .fail q w)
    (n : Nat) (values : Array α) (seen : Option Furthest) :
    freeUntil b keep item terminator s (n + 1) values pos seen
      = freeItem b (item s pos) (some w) (freeUntil b keep item terminator s n) values pos seen := by
  rw [freeUntil, Parser.untilWith, Parser.untilTurnWith, run_telling, hstop]
  simp only [Option.bind_eq_bind, Option.bind_some, Parser.untilItemWith, hmax, Option.filter_none, run_telling]
  cases item s pos <;> rfl

theorem freeUntil_of_halt {u : β} {next : Nat} {w : Option Furthest} (hstop : terminator s pos = .success u next w)
    {values : Array α} (hmin : b.min ≤ values.size) (turns : Nat) (seen : Option Furthest) :
    freeUntil b keep item terminator s turns values pos seen
      = match keep u with
        | some v => some (.success (values.push v).toList next (Furthest.merge seen w))
        | none => some (.success values.toList pos (Furthest.merge seen w)) := by
  cases turns <;>
  · rw [freeUntil, Parser.untilWith, Parser.untilTurnWith, run_telling, hstop]
    exact if_pos hmin

theorem freeUntil_zero_of_lt (hmax : b.max = none) {u : β} {next : Nat} {w : Option Furthest}
    (hstop : terminator s pos = .success u next w) {values : Array α} (hmin : ¬b.min ≤ values.size)
    (seen : Option Furthest) : freeUntil b keep item terminator s 0 values pos seen = none := by
  rw [freeUntil, Parser.untilWith, Parser.untilTurnWith, run_telling, hstop]
  simp [Parser.untilItemWith, hmax, hmin]

theorem freeUntil_succ_of_lt (hmax : b.max = none) {u : β} {next : Nat} {w : Option Furthest}
    (hstop : terminator s pos = .success u next w) {values : Array α} (hmin : ¬b.min ≤ values.size) (n : Nat)
    (seen : Option Furthest) :
    freeUntil b keep item terminator s (n + 1) values pos seen
      = freeItem b (item s pos) none (freeUntil b keep item terminator s n) values pos seen := by
  have hturn : freeUntil b keep item terminator s (n + 1) values pos seen
      = Parser.untilItemWith .never b (.telling "item" item) s (some (freeUntil b keep item terminator s n)) none
        values pos seen := by
    rw [freeUntil, Parser.untilWith, Parser.untilTurnWith, run_telling, hstop]
    exact if_neg hmin
  rw [hturn]
  simp only [Parser.untilItemWith, hmax, Option.filter_none, run_telling]
  cases item s pos <;> rfl

theorem freeTimes_still (hmax : b.max = none) {v : α} {w : Option Furthest} (hstep : item s pos = .success v pos w)
    (turns : Nat) (values : Array α) (seen : Option Furthest) : freeTimes b item s turns values pos seen = none := by
  induction turns generalizing values seen with
  | zero => exact freeTimes_zero hmax values seen
  | succ n ih =>
    rw [freeTimes_succ, hstep]
    exact ih (values.push v) (Furthest.merge seen w)

theorem freeUntil_still (hmax : b.max = none) {v : α} {w : Option Furthest} (hstep : item s pos = .success v pos w)
    {q : Nat} {missed : Furthest} (hstop : terminator s pos = .fail q missed) (turns : Nat) (values : Array α)
    (seen : Option Furthest) : freeUntil b keep item terminator s turns values pos seen = none := by
  induction turns generalizing values seen with
  | zero => exact freeUntil_zero_of_fail hmax hstop values seen
  | succ n ih =>
    rw [freeUntil_succ_of_fail hmax hstop, hstep]
    exact ih (values.push v) (Furthest.merge seen w)

end Free

/-! ## What a record says of the repetition without the check -/

def NoneStalled (events : List Event) : Prop := ∀ q, .raised (.emptyLoop q) ∉ events

theorem noneStalled_nil : NoneStalled [] := fun _ => List.not_mem_nil

theorem noneStalled_told (line : String) (pos : Nat) (step : Step α) : NoneStalled (told line pos step) := by
  intro q
  simp [told]

theorem NoneStalled.append {t t' : List Event} (h : NoneStalled t) (h' : NoneStalled t') : NoneStalled (t ++ t') := by
  intro q hq
  rcases List.mem_append.1 hq with hq | hq
  · exact h q hq
  · exact h' q hq

/-- Either the check ends the repetition, and without it there would be no end, or both come back with the same. -/
inductive Verdict (free : Nat → Option (Step γ)) : Step γ → List Event → Prop
  | endless (q : Nat) (before : List Event) (hbefore : NoneStalled before) (hfree : ∀ turns, free turns = none) :
      Verdict free (.error (.emptyLoop q)) (before ++ [.raised (.emptyLoop q)])
  | same (step : Step γ) (events : List Event) (hevents : NoneStalled events) (turns : Nat)
      (hfree : free turns = some step) : Verdict free step events

namespace Verdict

variable {free free' : Nat → Option (Step γ)} {step : Step γ} {turn events : List Event}

theorem behind (h : Verdict free step events) (hturn : NoneStalled turn) : Verdict free step (turn ++ events) := by
  cases h with
  | endless q before hbefore hfree =>
    rw [← List.append_assoc]
    exact .endless q _ (hturn.append hbefore) hfree
  | same step events hevents turns hfree => exact .same step _ (hturn.append hevents) turns hfree

theorem later (h : Verdict free' step events) (hzero : free 0 = none) (hsucc : ∀ n, free (n + 1) = free' n) :
    Verdict free step events := by
  cases h with
  | endless q before hbefore hfree =>
    refine .endless q before hbefore fun turns => ?_
    cases turns with
    | zero => exact hzero
    | succ n => exact (hsucc n).trans (hfree n)
  | same step events hevents n hfree => exact .same step events hevents (n + 1) ((hsucc n).trans hfree)

end Verdict

/-- What is known of a repetition with `count` items that comes back with a step and some events. -/
def Judged (b : Bounds) (s : Stream ι) (count pos : Nat) (free : Nat → Option (Step γ)) (step : Step γ)
    (events : List Event) : Prop :=
  itemRuns events ≤ turnsLeft b count pos s.length ∧ Verdict free step events

section Judged

variable {b : Bounds} {keep : β → Option α} {item : Stream ι → Nat → Step α}
  {terminator : Stream ι → Nat → Step β} {s : Stream ι} {pos : Nat}

theorem eq_of_stalls {count next : Nat} (h : Parser.stalls b count pos next = true) : next = pos := by
  rw [Parser.stalls, Bool.and_eq_true, Bool.and_eq_true] at h
  simpa using h.1.1

theorem le_of_stalls {count next : Nat} (h : Parser.stalls b count pos next = true) : b.min ≤ count := by
  rw [Parser.stalls, Bool.and_eq_true] at h
  simpa using h.2

theorem judged_last {free : Nat → Option (Step γ)} {count turns : Nat} {step : Step α} {last : Step γ}
    {own : List Event} (hown : NoneStalled own) (hruns : itemRuns own = 0) (hfree : free turns = some last) :
    Judged b s count pos free last (told "item" pos step ++ own) := by
  refine ⟨?_, .same last _ ((noneStalled_told _ _ _).append hown) turns hfree⟩
  rw [itemRuns_append, itemRuns_told_item, hruns]
  exact Nat.le_add_left 1 _

theorem judged_stalled {free : Nat → Option (Step γ)} {count : Nat} {step : Step α}
    (hfree : ∀ turns, free turns = none) :
    Judged b s count pos free (.error (.emptyLoop pos)) (told "item" pos step ++ [.raised (.emptyLoop pos)]) := by
  refine ⟨?_, .endless pos _ (noneStalled_told _ _ _) hfree⟩
  rw [itemRuns_append, itemRuns_told_item]
  exact Nat.le_add_left 1 _

theorem Judged.later {free free' : Nat → Option (Step γ)} {count next : Nat} {step : Step α} {last : Step γ}
    {events : List Event} (h : Judged b s (count + 1) next free' last events) (hmax : b.max = none)
    (hstall : ¬Parser.stalls b count pos next = true) (hle : pos ≤ next) (hlimit : next ≤ s.length)
    (hzero : free 0 = none) (hsucc : ∀ n, free (n + 1) = free' n) :
    Judged b s count pos free last (told "item" pos step ++ events) := by
  refine ⟨?_, (h.2.later hzero hsucc).behind (noneStalled_told _ _ _)⟩
  have hless := turnsLeft_lt hmax hstall hle hlimit
  have hruns := h.1
  rw [itemRuns_append, itemRuns_told_item]
  omega

theorem Judged.behind_terminator {free : Nat → Option (Step γ)} {count : Nat} {halt : Step β} {last : Step γ}
    {events : List Event} (h : Judged b s count pos free last events) :
    Judged b s count pos free last (told "terminator" pos halt ++ events) := by
  refine ⟨?_, h.2.behind (noneStalled_told _ _ _)⟩
  rw [itemRuns_append, itemRuns_told_terminator, Nat.zero_add]
  exact h.1

theorem judged_halt {free : Nat → Option (Step γ)} {count turns : Nat} {last : Step γ}
    (hfree : free turns = some last) : Judged b s count pos free last [] :=
  ⟨Nat.zero_le _, .same last [] noneStalled_nil turns hfree⟩

theorem yields_timesFrom_telling (hmax : b.max = none) (hitem : ∀ q ≤ s.length, (item s q).Advances q s.length)
    (allowance : Nat) (values : Array α) (hpos : pos ≤ s.length) (seen : Option Furthest) :
    Yields (Parser.timesFrom b (.telling "item" item) s allowance values pos seen)
      (Judged b s values.size pos fun turns => freeTimes b item s turns values pos seen) := by
  induction allowance generalizing values pos seen with
  | zero =>
    rw [Parser.timesFrom, if_pos (by simp [hmax])]
    exact .giveUp
  | succ n ih =>
    have hadvances := hitem pos hpos
    refine Yields.telling ?_
    cases hstep : item s pos with
    | success v next w =>
      simp only [hstep] at hadvances ⊢
      split
      next hstall =>
        obtain rfl : next = pos := eq_of_stalls hstall
        exact .note (.pure (judged_stalled fun turns => freeTimes_still hmax hstep turns values seen))
      next hstall =>
        refine (ih (values.push v) hadvances.2 _).mono fun step new hnew => ?_
        rw [Array.size_push] at hnew
        refine hnew.later hmax hstall hadvances.1 hadvances.2 (freeTimes_zero hmax values seen) fun k => ?_
        rw [freeTimes_succ, hstep]
    | fail q w =>
      have hturn : freeTimes b item s 1 values pos seen = _ := freeTimes_succ 0 values seen
      simp only [hstep] at hturn ⊢
      split
      next hmin => exact .pure (judged_last noneStalled_nil rfl (hturn.trans (if_pos hmin)))
      next hmin =>
        rw [if_neg hmin, Parser.timesEnd, if_neg hmin] at hturn
        rw [Parser.timesEnd, if_neg hmin]
        exact .pure (judged_last noneStalled_nil rfl hturn)
    | error e =>
      have hturn : freeTimes b item s 1 values pos seen = _ := freeTimes_succ 0 values seen
      simp only [hstep] at hturn ⊢
      exact .pure (judged_last noneStalled_nil rfl hturn)

/-- The item's turn in a repetition up to a terminator, where `free` stands for the repetition without the check from
this turn on, and `go` for what follows the turn there. -/
theorem yields_untilItem_telling (hmax : b.max = none) (hitem : ∀ q ≤ s.length, (item s q).Advances q s.length)
    (hpos : pos ≤ s.length) {values : Array α} {missed seen : Option Furthest}
    {again : Option (Array α → Nat → Option Furthest → Recorded (Step (List α)))}
    (free : Nat → Option (Step (List α))) (go : Nat → Array α → Nat → Option Furthest → Option (Step (List α)))
    (hzero : free 0 = none) (hsucc : ∀ n, free (n + 1) = freeItem b (item s pos) missed (go n) values pos seen)
    (hstill : b.min ≤ values.size → ∀ v w, item s pos = .success v pos w → ∀ turns, free turns = none)
    (hagain : ∀ rest ∈ again, ∀ v next w, next ≤ s.length →
      Yields (rest (values.push v) next w)
        (Judged b s (values.size + 1) next fun turns => go turns (values.push v) next w)) :
    Yields (Parser.untilItem b (.telling "item" item) s again missed values pos seen)
      (Judged b s values.size pos free) := by
  simp only [Parser.untilItem, hmax, Option.filter_none]
  cases again with
  | none => exact .giveUp
  | some rest =>
    have hadvances := hitem pos hpos
    have hfirst := hsucc 0
    refine Yields.telling ?_
    cases hstep : item s pos with
    | success v next w =>
      simp only [hstep] at hadvances ⊢
      split
      next hstall =>
        obtain rfl : next = pos := eq_of_stalls hstall
        exact .note (.pure (judged_stalled (hstill (le_of_stalls hstall) v w hstep)))
      next hstall =>
        refine (hagain rest rfl v next _ hadvances.2).mono fun step new hnew => ?_
        refine hnew.later hmax hstall hadvances.1 hadvances.2 hzero fun n => ?_
        rw [hsucc, hstep, freeItem]
    | fail q w =>
      rw [hstep, freeItem] at hfirst
      dsimp only
      split
      next hmin => exact .pure (judged_last noneStalled_nil rfl (hfirst.trans (if_pos hmin)))
      next hmin =>
        refine .note (.pure (judged_last (fun q hq => ?_) rfl (hfirst.trans (if_neg hmin))))
        simp at hq
    | error e =>
      rw [hstep, freeItem] at hfirst
      exact .pure (judged_last noneStalled_nil rfl hfirst)

theorem yields_untilTurn_telling (hmax : b.max = none) (hitem : ∀ q ≤ s.length, (item s q).Advances q s.length)
    (again : Option (Array α → Nat → Option Furthest → Recorded (Step (List α)))) (values : Array α)
    (hpos : pos ≤ s.length) (seen : Option Furthest)
    (hagain : ∀ rest ∈ again, ∀ v next w, next ≤ s.length → Yields (rest (values.push v) next w)
      (Judged b s (values.size + 1) next fun turns =>
        freeUntil b keep item terminator s turns (values.push v) next w)) :
    Yields (Parser.untilTurn b keep (.telling "item" item) (.telling "terminator" terminator) s again values pos seen)
      (Judged b s values.size pos fun turns => freeUntil b keep item terminator s turns values pos seen) := by
  let free (turns : Nat) := freeUntil b keep item terminator s turns values pos seen
  let go := freeUntil b keep item terminator s
  refine Yields.telling ?_
  cases hstop : terminator s pos with
  | success u next w =>
    dsimp only
    split
    next hmin =>
      have hhalt : free 0 = _ := freeUntil_of_halt hstop hmin 0 seen
      cases hkeep : keep u with
      | some v =>
        rw [hkeep] at hhalt
        exact .pure (judged_halt hhalt).behind_terminator
      | none =>
        rw [hkeep] at hhalt
        exact .pure (judged_halt hhalt).behind_terminator
    next hmin =>
      have hsucc (n : Nat) : free (n + 1) = freeItem b (item s pos) none (go n) values pos seen :=
        freeUntil_succ_of_lt hmax hstop hmin n seen
      exact (yields_untilItem_telling hmax hitem hpos free go (freeUntil_zero_of_lt hmax hstop hmin seen) hsucc
        (fun hle => absurd hle hmin) hagain).mono fun _ _ hnew => hnew.behind_terminator
  | fail q w =>
    have hsucc (n : Nat) : free (n + 1) = freeItem b (item s pos) (some w) (go n) values pos seen :=
      freeUntil_succ_of_fail hmax hstop n values seen
    exact (yields_untilItem_telling hmax hitem hpos free go (freeUntil_zero_of_fail hmax hstop values seen) hsucc
      (fun _ v w' hstep turns => freeUntil_still hmax hstep hstop turns values seen) hagain).mono
      fun _ _ hnew => hnew.behind_terminator
  | error e =>
    have hhalt : free 0 = some (.error e) := by
      simp only [free, freeUntil, Parser.untilWith, Parser.untilTurnWith, run_telling, hstop]
      rfl
    exact .pure (judged_halt hhalt).behind_terminator

theorem yields_untilFrom_telling (hmax : b.max = none) (hitem : ∀ q ≤ s.length, (item s q).Advances q s.length)
    (allowance : Nat) (values : Array α) (hpos : pos ≤ s.length) (seen : Option Furthest) :
    Yields
      (Parser.untilFrom b keep (.telling "item" item) (.telling "terminator" terminator) s allowance values pos seen)
      (Judged b s values.size pos fun turns => freeUntil b keep item terminator s turns values pos seen) := by
  induction allowance generalizing values pos seen with
  | zero => exact yields_untilTurn_telling hmax hitem none values hpos seen nofun
  | succ n ih =>
    refine yields_untilTurn_telling hmax hitem _ values hpos seen fun rest hrest v next w hnext => ?_
    obtain rfl := Option.mem_some.1 hrest
    have hlater := ih (values.push v) hnext w
    rwa [Array.size_push] at hlater

end Judged

/-! ## The check is exact -/

/-- Whether what a repetition from `pos` comes back with, and the events that it leaves, show its check to be exact;
`free` is the repetition without the check. -/
structure CheckIsExact (b : Bounds) (s : Stream ι) (pos : Nat) (free : Nat → Option (Step γ)) (step : Step γ)
    (events : List Event) : Prop where
  /-- The item does not run more often than this. -/
  runs : itemRuns events ≤ b.min + (s.length - pos) + 1
  /-- The repetition raises an error of its own where there would be no end, and only there. -/
  raises : (∃ q, .raised (.emptyLoop q) ∈ events) ↔ ∀ turns, free turns = none
  /-- That error ends it. -/
  ends : ∀ q, .raised (.emptyLoop q) ∈ events → step = .error (.emptyLoop q)
  /-- Otherwise nothing shows of the check. -/
  same : (∀ q, .raised (.emptyLoop q) ∉ events) → ∃ enough, ∀ turns, enough ≤ turns → free turns = some step

/-- Whether a repetition comes back when it is recorded, and shows its check to be exact. -/
def ChecksExactly (b : Bounds) (s : Stream ι) (pos : Nat) (free : Nat → Option (Step γ)) (x : Recorded (Step γ)) :
    Prop :=
  ∃ step events, x #[] = some (step, events) ∧ CheckIsExact b s pos free step events.toList

theorem Judged.checkIsExact {b : Bounds} {s : Stream ι} {pos : Nat} {free : Nat → Option (Step γ)} {step : Step γ}
    {events : List Event} (h : Judged b s 0 pos free step events)
    (hmono : ∀ {n n'}, n ≤ n' → Below (free n) (free n')) : CheckIsExact b s pos free step events := by
  obtain ⟨hruns, hverdict⟩ := h
  cases hverdict with
  | endless q before hbefore hfree =>
    have hraised : .raised (.emptyLoop q) ∈ before ++ [Event.raised (.emptyLoop q)] := by simp
    refine ⟨hruns, ⟨fun _ => hfree, fun _ => ⟨q, hraised⟩⟩, fun q' hq' => ?_, fun hnone => absurd hraised (hnone q)⟩
    have hsame : q' = q := by simpa [hbefore q'] using hq'
    rw [hsame]
  | same _ _ hevents turns hfree =>
    refine ⟨hruns, ⟨fun ⟨q, hq⟩ => absurd hq (hevents q), fun hnone => ?_⟩, fun q hq => absurd hq (hevents q),
      fun _ => ⟨turns, fun n hn => hmono hn step hfree⟩⟩
    rw [hnone turns] at hfree
    cases hfree

theorem checksExactly_of_plain {b : Bounds} {s : Stream ι} {pos : Nat} {free : Nat → Option (Step γ)}
    {x : Recorded (Step γ)} {y : Option (Step γ)} (hplain : Plain x (y.map (Step.shift 0)))
    (hback : ∃ step, y = some step) (h : Yields x (Judged b s 0 pos free))
    (hmono : ∀ {n n'}, n ≤ n' → Below (free n) (free n')) : ChecksExactly b s pos free x := by
  obtain ⟨step, rfl⟩ := hback
  obtain ⟨r, hrun, hr⟩ := hplain
  obtain ⟨⟨last, events⟩, rfl, -⟩ := Option.map_eq_some_iff.1 hr
  obtain ⟨new, hnew, hjudged⟩ := h #[] last (#[] ++ events) (hrun #[])
  rw [List.nil_append] at hnew
  exact ⟨last, #[] ++ events, hrun #[], hnew ▸ hjudged.checkIsExact hmono⟩

section Exact

variable {b : Bounds} {s : Stream ι} {start budget : Nat} {item : Stream ι → Nat → Step α}

theorem returnsFrom_telling (hitem : ∀ q ≤ s.length, (item s q).Advances q s.length) (pos : Nat) :
    ReturnsFrom (.telling "item" item) s pos := fun q _ hq => ⟨item s q, rfl, hitem q hq⟩

/-- A repetition without a greatest number, of an item that goes on in the stream, comes back under a budget for each
offset that is left, and its check for progress is exact; so it is up to a terminator. -/
theorem progress_check_exact (hmax : b.max = none) (hstart : start ≤ s.length)
    (hitem : ∀ q ≤ s.length, (item s q).Advances q s.length) (hbudget : s.length - start < budget) :
    ChecksExactly b s start (fun turns => freeTimes b item s turns #[] start none)
      (Parser.times budget b (.telling "item" item) s start) ∧
    ∀ (β : Type) (keep : β → Option α) (terminator : Stream ι → Nat → Step β),
      ChecksExactly b s start (fun turns => freeUntil b keep item terminator s turns #[] start none)
        (Parser.repeatUntil budget b keep (.telling "item" item) (.telling "terminator" terminator) s start) := by
  have hitems := alongside_telling s "item" item
  refine ⟨?_, fun β keep terminator => ?_⟩
  · have hplain := Alongside.timesFrom b hitems (b.allowance budget) #[] start none
    rw [Nat.zero_add] at hplain
    exact checksExactly_of_plain hplain (exists_times hstart (returnsFrom_telling hitem start) hbudget)
      (yields_timesFrom_telling hmax hitem (b.allowance budget) #[] hstart none)
      fun hn => AllBelow.timesWith .never (fun _ _ => .refl _) (.inr ⟨hmax, hn⟩) #[] start none
  · have hplain := Alongside.untilFrom b keep hitems (alongside_telling s "terminator" terminator)
      (b.allowance budget) #[] start none
    rw [Nat.zero_add] at hplain
    exact checksExactly_of_plain hplain (exists_repeatUntil hstart (returnsFrom_telling hitem start)
      (fun q _ _ => ⟨terminator s q, rfl⟩) hbudget)
      (yields_untilFrom_telling hmax hitem (b.allowance budget) #[] hstart none)
      fun hn => AllBelow.untilWith .never b keep (fun _ _ => .refl _) (fun _ _ => .refl _) hn #[] start none

/-- One offset further, up to the end. -/
def stroll (s : Stream Char) (pos : Nat) : Step Unit := .done () (min (pos + 1) s.length)

theorem progress_check_exact_stroll :
    (∀ q ≤ (Stream.ofString "ab").length, (stroll (.ofString "ab") q).Advances q (Stream.ofString "ab").length) ∧
    ChecksExactly .any (Stream.ofString "ab") 0 (fun turns => freeTimes .any stroll (.ofString "ab") turns #[] 0 none)
      (Parser.times 3 .any (.telling "item" stroll) (.ofString "ab") 0) ∧
    Parser.times 3 .any (.telling "item" stroll) (.ofString "ab") 0 = some (.error (.emptyLoop 2)) := by
  have hlength : (Stream.ofString "ab").length = 2 := by decide
  have hstroll (q : Nat) (hq : q ≤ (Stream.ofString "ab").length) :
      (stroll (.ofString "ab") q).Advances q (Stream.ofString "ab").length := by
    rw [stroll, hlength]
    exact ⟨by omega, by omega⟩
  exact ⟨hstroll, (progress_check_exact rfl (Nat.zero_le _) hstroll (by decide)).1, by decide⟩

end Exact

end Descent
