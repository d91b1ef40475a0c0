import Descent.Grammar.Text
import Descent.Proofs.Report
import Descent.Proofs.Tracking
import Descent.Proofs.Visits

/-!
# The witness of a repetition up to a terminator

A repetition up to a terminator does not keep the witnesses of all its runs. It heeds those of its items and that of the
last run of its terminator; those of earlier runs of the terminator are forgotten as soon as an item is found
(`heeded`). And where it fails because its items are too many or too few, it says only that, at the offset that it has
come to (`OutOfBounds`).

Apart from this its witness is exact: `until_witness_exact`. What is forgotten may lie deeper than what is reported,
in both cases: `until_forgets`.
-/

namespace Descent

variable {ι : Type} [Item ι] {Γ : Nat → Type} {α β : Type}

/-! ## Covering -/

/-- Whether a witness says no less than another: it is as deep, and if no deeper it expects all that the other does. -/
def Furthest.Covers (f w : Furthest) : Prop := w.pos ≤ f.pos ∧ (w.pos = f.pos → ∀ z ∈ w.expected, z ∈ f.expected)

theorem IsFurthest.covers {record : List Furthest} {found : Option Furthest} (h : IsFurthest record found)
    {w : Furthest} (hw : w ∈ record) : ∃ f, found = some f ∧ f.Covers w := by
  cases found with
  | none =>
    obtain rfl : record = [] := h
    cases hw
  | some f =>
    obtain ⟨-, hle, hmem⟩ := h
    exact ⟨f, rfl, hle w hw, fun hpos z hz => (hmem z).2 ⟨w, hw, hpos, hz⟩⟩

theorem Step.Tracks.covers {record : List Furthest} {step : Step α} (h : step.Tracks record) (hnot : step.error? = none)
    {w : Furthest} (hw : w ∈ record) : ∃ f, step.furthest? = some f ∧ f.Covers w := by
  cases step with
  | success v next found => exact IsFurthest.covers h hw
  | fail q f =>
    have hfound : IsFurthest record (some f) := h
    exact hfound.covers hw
  | error e => cases hnot

/-! ## What is heeded -/

/-- The runs of a repetition up to a terminator whose witnesses count, out of runs of the terminator and of the item by
turns: a run of the terminator does not count any more when another turn follows. -/
def heeded : List (Visit ι Γ) → List (Visit ι Γ)
  | _ :: item :: next :: later => item :: heeded (next :: later)
  | last => last

/-- The failures of a repetition up to a terminator, with `count` items and some visits to come, whose items are too many
or too few: they expect the right number at the offset that has been reached. -/
inductive OutOfBounds (b : Bounds) : (count : Nat) → List (Visit ι Γ) → Step (List α) → Prop
  | tooMany {count max : Nat} {halt : Visit ι Γ} (hmax : b.max = some max) (hfull : max ≤ count) :
      OutOfBounds b count [halt] (.failed halt.pos s!"at most {max} items")
  | tooFew {count : Nat} {halt item : Visit ι Γ} (hmin : count < b.min) :
      OutOfBounds b count [halt, item] (.failed item.pos s!"at least {b.min} items; got {count} item(s)")
  | later {count : Nat} {halt item : Visit ι Γ} {visits : List (Visit ι Γ)} {step : Step (List α)}
      (h : OutOfBounds b (count + 1) visits step) : OutOfBounds b count (halt :: item :: visits) step

theorem OutOfBounds.failed {b : Bounds} {count : Nat} {visits : List (Visit ι Γ)} {step : Step (List α)}
    (h : OutOfBounds b count visits step) : ∃ v ∈ visits, ∃ message, step = .failed v.pos message := by
  induction h with
  | @tooMany count max halt hmax hfull => exact ⟨halt, List.mem_cons_self .., _, rfl⟩
  | @tooFew count halt item hmin => exact ⟨item, by simp, _, rfl⟩
  | later _ ih =>
    obtain ⟨v, hv, message, hstep⟩ := ih
    exact ⟨v, by simp [hv], message, hstep⟩

variable [DecidableEq ι]

def Visit.witness? (d : Declarations ι Γ) (s : Stream ι) (v : Visit ι Γ) : Option Furthest :=
  (v.step d s).bind Step.furthest?

def witnesses (d : Declarations ι Γ) (s : Stream ι) (visits : List (Visit ι Γ)) : List Furthest :=
  visits.filterMap (Visit.witness? d s)

/-- Whether the step of a repetition up to a terminator reports what it has found, with `record` as the witnesses of
before: it is an error, or it is out of bounds, or it has the witness that all that is heeded comes to. -/
def Reports (d : Declarations ι Γ) (s : Stream ι) (b : Bounds) (record : List Furthest) (count : Nat)
    (visits : List (Visit ι Γ)) (step : Step (List α)) : Prop :=
  (∃ e, step = .error e) ∨ OutOfBounds b count visits step ∨ step.Tracks (record ++ witnesses d s (heeded visits))

section Turns

variable {d : Declarations ι Γ} {s : Stream ι} {n : Nat} {b : Bounds} {g : Grammar ι Γ α} {stop : Grammar ι Γ β}
  {keep : β → Option α} {record : List Furthest} {values : Array α} {pos : Nat} {seen : Option Furthest}
  {step : Step (List α)}

theorem witnesses_cons (v : Visit ι Γ) (visits : List (Visit ι Γ)) :
    witnesses d s (v :: visits) = (v.witness? d s).toList ++ witnesses d s visits := by
  rw [witnesses, List.filterMap_cons]
  cases v.witness? d s <;> rfl

theorem witness?_of_run {step : Step α} (hrun : d.runAt n g s pos = some step) :
    Visit.witness? d s ⟨n, g, pos⟩ = step.furthest? := by
  rw [Visit.witness?, Visit.step]
  exact congrArg (Option.bind · Step.furthest?) hrun

theorem Reports.later {halt item next : Visit ι Γ} {visits : List (Visit ι Γ)} {count : Nat}
    (h : Reports d s b (record ++ (item.witness? d s).toList) (count + 1) (next :: visits) step) :
    Reports d s b record count (halt :: item :: next :: visits) step := by
  rcases h with herror | hbounds | htracks
  · exact .inl herror
  · exact .inr (.inl hbounds.later)
  · refine .inr (.inr ?_)
    rwa [heeded, witnesses_cons, ← List.append_assoc]

theorem exists_untilParts (allowance count pos : Nat) :
    ∃ visits, d.untilParts s n b g stop allowance count pos = ⟨n, stop, pos⟩ :: visits := by
  cases allowance with
  | zero => exact ⟨[], rfl⟩
  | succ k => exact ⟨_, rfl⟩

theorem reports_untilItem_full {again : Option (Array α → Nat → Option Furthest → Option (Step (List α)))}
    {p : Parser Option ι α} {missed : Option Furthest} {max : Nat}
    (hfilter : b.max.filter (· ≤ values.size) = some max)
    (hrun : Parser.untilItem b p s again missed values pos seen = some step) :
    Reports d s b record values.size [⟨n, stop, pos⟩] step := by
  obtain ⟨hmax, hfull⟩ := Option.filter_eq_some_iff.1 hfilter
  simp only [Parser.untilItem, hfilter] at hrun
  rw [← Option.some.inj hrun]
  exact .inr (.inl (.tooMany hmax (by simpa using hfull)))

/-- The item's turn, after a terminator that was missed for the reason `missed`, or that came too early. -/
theorem reports_untilItem {k : Nat} {missed : Option Furthest} {halt : Visit ι Γ} (hseen : IsFurthest record seen)
    (hmissed : b.min ≤ values.size → missed = halt.witness? d s)
    (hfilter : b.max.filter (· ≤ values.size) = none)
    (hlater : ∀ v next w, d.runAt n g s pos = some (.success v next w) →
      Parser.untilFrom b keep (d.parser n g) (d.parser n stop) s k (values.push v) next (Furthest.merge seen w)
        = some step →
      Reports d s b (record ++ w.toList) (values.size + 1) (d.untilParts s n b g stop k (values.size + 1) next) step)
    (hrun : Parser.untilItem b (d.parser n g) s (some (Parser.untilFrom b keep (d.parser n g) (d.parser n stop) s k))
      missed values pos seen = some step) :
    Reports d s b record values.size
      (halt :: ⟨n, g, pos⟩ ::
        match (d.runAt n g s pos : Option (Step α)) with
        | some (.success _ next _) =>
          if Parser.stalls b values.size pos next then [] else d.untilParts s n b g stop k (values.size + 1) next
        | _ => [])
      step := by
  simp only [Parser.untilItem, hfilter] at hrun
  obtain ⟨item, hitem, hrun⟩ := Option.bind_eq_some_iff.1 hrun
  have hitem : d.runAt n g s pos = some item := hitem
  have hwitness := witness?_of_run hitem
  rw [hitem]
  cases item with
  | success v next w =>
    cases hstall : Parser.stalls b values.size pos next with
    | true =>
      simp only [hstall, if_true] at hrun
      exact .inl ⟨_, (Option.some.inj hrun).symm⟩
    | false =>
      simp only [hstall, Bool.false_eq_true, if_false] at hrun ⊢
      have hreports := hlater v next w hitem hrun
      obtain ⟨visits, hvisits⟩ := exists_untilParts (d := d) (s := s) (n := n) (b := b) (g := g) k (values.size + 1) next
      rw [hvisits] at hreports ⊢
      refine Reports.later ?_
      rwa [hwitness]
  | fail q w =>
    by_cases hmin : b.min ≤ values.size
    · simp only [hmin, if_true] at hrun
      rw [← Option.some.inj hrun]
      refine .inr (.inr ?_)
      have hall := hseen.append ((IsFurthest.toList missed).append (.singleton w))
      rw [Furthest.merge_comm, Furthest.merge_comm missed] at hall
      simp only [heeded, witnesses_cons, ← hmissed hmin, hwitness]
      exact hall
    · simp only [hmin, if_false] at hrun
      rw [← Option.some.inj hrun]
      exact .inr (.inl (.tooFew (Nat.not_le.1 hmin)))
  | error e => exact .inl ⟨e, (Option.some.inj hrun).symm⟩

theorem reports_untilTurn {again : Option (Array α → Nat → Option Furthest → Option (Step (List α)))}
    {items : List (Visit ι Γ)} (hseen : IsFurthest record seen)
    (hitem : ∀ missed, (b.min ≤ values.size → missed = Visit.witness? d s ⟨n, stop, pos⟩) →
      Parser.untilItem b (d.parser n g) s again missed values pos seen = some step →
      Reports d s b record values.size
        (⟨n, stop, pos⟩ :: if (b.max.filter (· ≤ values.size)).isNone then items else []) step)
    (hrun : Parser.untilTurn b keep (d.parser n g) (d.parser n stop) s again values pos seen = some step) :
    Reports d s b record values.size
      (⟨n, stop, pos⟩ ::
        if Declarations.itemFollows b values.size (d.runAt n stop s pos : Option (Step β)) then items else []) step := by
  obtain ⟨halt, hhalt, hrun⟩ := Option.bind_eq_some_iff.1 hrun
  have hhalt : d.runAt n stop s pos = some halt := hhalt
  have hwitness := witness?_of_run hhalt
  rw [hhalt]
  cases halt with
  | success u next w =>
    by_cases hmin : b.min ≤ values.size
    · rw [Declarations.itemFollows_of_le u next w hmin, if_neg Bool.false_ne_true]
      have hall : IsFurthest (record ++ witnesses d s (heeded [⟨n, stop, pos⟩])) (Furthest.merge seen w) := by
        rw [heeded, witnesses_cons, hwitness]
        · simpa [witnesses, Step.furthest?] using hseen.append (IsFurthest.toList w)
        · simp
      simp only [hmin, if_true] at hrun
      refine .inr (.inr ?_)
      cases hkeep : keep u with
      | none =>
        rw [hkeep] at hrun
        rw [← Option.some.inj hrun]
        exact hall
      | some v =>
        rw [hkeep] at hrun
        rw [← Option.some.inj hrun]
        exact hall
    · rw [Declarations.itemFollows_of_lt u next w (Nat.not_le.1 hmin)]
      simp only [hmin, if_false] at hrun
      exact hitem none (fun h => absurd h hmin) hrun
  | fail q w => exact hitem (some w) (fun _ => hwitness.symm) hrun
  | error e => exact .inl ⟨e, (Option.some.inj hrun).symm⟩

theorem reports_untilFrom {allowance : Nat} (hseen : IsFurthest record seen)
    (hrun : Parser.untilFrom b keep (d.parser n g) (d.parser n stop) s allowance values pos seen = some step) :
    Reports d s b record values.size (d.untilParts s n b g stop allowance values.size pos) step := by
  induction allowance generalizing record values pos seen with
  | zero =>
    -- the budget is spent: only the terminator is run
    have hitem (missed : Option Furthest)
        (hrun : Parser.untilItem b (d.parser n g) s none missed values pos seen = some step) :
        Reports d s b record values.size [⟨n, stop, pos⟩] step := by
      cases hfilter : b.max.filter (· ≤ values.size) with
      | some max => exact reports_untilItem_full hfilter hrun
      | none =>
        simp only [Parser.untilItem, hfilter] at hrun
        cases hrun
    have hturn : Reports d s b record values.size
        (⟨n, stop, pos⟩ ::
          if Declarations.itemFollows b values.size (d.runAt n stop s pos : Option (Step β)) then [] else []) step :=
      reports_untilTurn hseen (fun missed _ hrun => by rw [ite_self]; exact hitem missed hrun) hrun
    rwa [ite_self] at hturn
  | succ k ih =>
    rw [Declarations.untilParts]
    refine reports_untilTurn hseen (fun missed hmissed hrun => ?_) hrun
    cases hfilter : b.max.filter (· ≤ values.size) with
    | some max => exact reports_untilItem_full hfilter hrun
    | none =>
      refine reports_untilItem hseen hmissed hfilter (fun v next w _ hlater => ?_) hrun
      have hnext := ih (hseen.append (IsFurthest.toList w)) hlater
      rwa [Array.size_push] at hnext

end Turns

/-! ## What is reported -/

section Runs

variable {d : Declarations ι Γ} {s : Stream ι} {n : Nat} {b : Bounds} {g : Grammar ι Γ α} {stop : Grammar ι Γ β}
  {keep : β → Option α} {pos : Nat} {step : Step (List α)}

/-- **The witness of a repetition up to a terminator is exact for what it heeds.** Such a repetition that comes back is in
error, or says of its items that they are too many or too few, or has the witness that the heeded witnesses of its runs
come to: those of all runs of the item and of the last run of the terminator. Then it covers each of these witnesses: it
is as deep, and where it is no deeper it expects the same and perhaps more. -/
theorem until_witness_exact (hrun : d.runAt n (.repeatUntil b keep g stop) s pos = some step) :
    let visits := Visit.parts d s ⟨n, .repeatUntil b keep g stop, pos⟩
    (∃ e, step = .error e) ∨ OutOfBounds b 0 visits step ∨
      (step.Tracks (witnesses d s (heeded visits)) ∧
        ∀ w ∈ witnesses d s (heeded visits), ∃ f, step.furthest? = some f ∧ f.Covers w) := by
  intro visits
  have hstart : IsFurthest [] none := rfl
  have hfrom : Parser.untilFrom b keep (d.parser n g) (d.parser n stop) s (b.allowance n) #[] pos none = some step := by
    rw [Declarations.runAt, Parser.run_plain] at hrun
    exact hrun
  rcases reports_untilFrom hstart hfrom with herror | hbounds | htracks
  · exact .inl herror
  · exact .inr (.inl hbounds)
  · rw [List.nil_append] at htracks
    cases step with
    | success v next w => exact .inr (.inr ⟨htracks, fun w hw => htracks.covers rfl hw⟩)
    | fail q w => exact .inr (.inr ⟨htracks, fun w hw => htracks.covers rfl hw⟩)
    | error e => exact .inl ⟨e, rfl⟩

end Runs

def Grammar.lettersUpToMark : Grammar Char (fun _ => String) (List String) :=
  manyUntil (or (append (literal "a") (literal "b")) (literal "a")) (literal ";")

open Grammar in
/-- What is reported of a letter before the mark is that it could have been a pair. -/
theorem until_witness_exact_letters :
    Declarations.none.runAt 2 lettersUpToMark (.ofString "a;") 0 = some (.success ["a"] 1 (some ⟨1, .single "b"⟩)) ∧
    IsFurthest (witnesses Declarations.none (.ofString "a;")
      (heeded (Visit.parts Declarations.none (.ofString "a;") ⟨2, lettersUpToMark, 0⟩))) (some ⟨1, .single "b"⟩) := by
  have hrun : Declarations.none.runAt 2 lettersUpToMark (.ofString "a;") 0
      = some (.success ["a"] 1 (some ⟨1, .single "b"⟩)) := by decide
  refine ⟨hrun, ?_⟩
  rcases until_witness_exact hrun with ⟨e, herror⟩ | hbounds | ⟨htracks, -⟩
  · cases herror
  · obtain ⟨v, -, message, hstep⟩ := hbounds.failed
    cases hstep
  · exact htracks

/-! ### Two texts that lose a witness -/

namespace Grammar

def upToLetters : Grammar Char (fun _ => String) (List String) :=
  manyUntil (literal "a") (append (append (literal "a") (literal "b")) (literal "c"))

def pairsUpToMark : Grammar Char (fun _ => String) (List String) :=
  manyUntilBounded (.atLeast 1) (append (literal "a") (literal "b")) (literal ";")

end Grammar

open Grammar in
/-- In `abx` the first run of the terminator misses the third letter only, but what is reported is a first letter that is
missing before it. In `ac` the item misses its second letter, but what is reported is that there is no item. -/
theorem until_forgets :
    Declarations.none.runAt 2 upToLetters (.ofString "abx") 0 = some (.fail 1 ⟨1, .single "a"⟩) ∧
    (⟨2, .single "c"⟩ : Furthest) ∈ witnesses Declarations.none (.ofString "abx")
      (Visit.parts Declarations.none (.ofString "abx") ⟨2, upToLetters, 0⟩) ∧
    ¬(⟨1, .single "a"⟩ : Furthest).Covers ⟨2, .single "c"⟩ ∧
    Declarations.none.runAt 2 pairsUpToMark (.ofString "ac") 0
      = some (.failed 0 "at least 1 items; got 0 item(s)") ∧
    (⟨1, .single "b"⟩ : Furthest) ∈ witnesses Declarations.none (.ofString "ac")
      (Visit.parts Declarations.none (.ofString "ac") ⟨2, pairsUpToMark, 0⟩) ∧
    ¬(Furthest.of 0 "at least 1 items; got 0 item(s)").Covers ⟨1, .single "b"⟩ := by
  refine ⟨by decide, by decide, fun h => absurd h.1 (by decide), by decide, by decide, fun h => absurd h.1 (by decide)⟩

end Descent
