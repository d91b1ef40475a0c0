import Descent.Parse
import Descent.Proofs.Fragment
import Descent.Proofs.Record
import Descent.Proofs.Semilattice

/-!
# Invariants of runs

A `RunInvariant` relates the offset at which a parser begins to the step that it comes back with and the events that it
leaves. Its fields say that it survives each of the few ways in which combinators put runs together: one run after
another (`after`), another run at the same offset after a failure (`retry`), staying where one was (`stay`), leaving out
what was seen (`forget`, `recover`). Every combinator is made of these, so such a relation holds of all runs of all
grammars (`RunInvariant.yields_runAt`).

Values do not matter to invariants: they are stated of the outline of a step.
-/

namespace Descent

variable {ι : Type} [Item ι] {Γ : Nat → Type} {α β γ : Type}

namespace Step

def outline (step : Step α) : Step Unit := step.map fun _ => ()

@[simp] theorem outline_success (v : α) (next : Nat) (w : Option Furthest) :
    (success v next w).outline = success () next w := rfl

@[simp] theorem outline_fail (pos : Nat) (w : Furthest) : (fail pos w : Step α).outline = fail pos w := rfl

@[simp] theorem outline_error (e : DefinitionError) : (error e : Step α).outline = error e := rfl

@[simp] theorem outline_map (f : α → β) (step : Step α) : (step.map f).outline = step.outline := by
  cases step <;> rfl

@[simp] theorem aggregate_success (seen : Option Furthest) (v : α) (next : Nat) (w : Option Furthest) :
    (success v next w).aggregate seen = success v next (Furthest.merge w seen) := rfl

@[simp] theorem aggregate_fail (seen : Option Furthest) (pos : Nat) (w : Furthest) :
    (fail pos w : Step α).aggregate seen = fail pos (w.absorb seen) := rfl

@[simp] theorem aggregate_error (seen : Option Furthest) (e : DefinitionError) :
    (error e : Step α).aggregate seen = error e := rfl

@[simp] theorem outline_aggregate (w : Option Furthest) (step : Step α) :
    (step.aggregate w).outline = step.outline.aggregate w := map_aggregate _ w step

@[simp] theorem error?_outline (step : Step α) : step.outline.error? = step.error? := by
  cases step <;> rfl

/-- The events of a leaf that comes back with this step. -/
def news : Step α → List Event
  | success .. => []
  | fail _ w => [.failed w]
  | error e => [.raised e]

end Step

/-- A relation between offsets, steps and events that all ways of putting runs together keep. -/
structure RunInvariant [DecidableEq ι] (F : Fragment ι) (s : Stream ι) where
  Holds : Nat → Step Unit → List Event → Prop
  start {pos : Nat} : Holds pos (.success () pos none) []
  leaf {α : Type} {l : Leaf ι α} {pos : Nat} : F.leaf l → Holds pos (l.step s pos).outline (l.step s pos).news
  fails (w : Furthest) : Holds w.pos (.fail w.pos w) [.failed w]
  raises {pos : Nat} {e : DefinitionError} :
    e = .unresolved ∨ e = .emptyLoop pos ∨ F.marks ∧ s.position pos = .error e → Holds pos (.error e) [.raised e]
  run {pos : Nat} {step : Step Unit} {t : List Event} :
    Holds pos step t → Holds pos step (.started pos :: (t ++ [.ended step.error?]))
  tell {pos : Nat} {step : Step Unit} {t : List Event} {line : String} :
    Holds pos step t → Holds pos step (t ++ [.debugged line])
  after {pos next : Nat} {w : Option Furthest} {step : Step Unit} {t t' : List Event} :
    Holds pos (.success () next w) t → Holds next step t' → Holds pos (step.aggregate w) (t ++ t')
  retry {pos q : Nat} {w : Furthest} {step : Step Unit} {t t' : List Event} :
    Holds pos (.fail q w) t → Holds pos step t' → Holds pos (step.aggregate (some w)) (t ++ t')
  stay {pos next : Nat} {w : Option Furthest} {t : List Event} :
    Holds pos (.success () next w) t → Holds pos (.success () pos w) t
  forget {pos next : Nat} {w : Option Furthest} {t : List Event} :
    F.forgetful → Holds pos (.success () next w) t → Holds pos (.success () next none) t
  recover {pos q : Nat} {w : Furthest} {t : List Event} :
    F.forgetful → Holds pos (.fail q w) t → Holds pos (.success () pos none) t

namespace RunInvariant

variable [DecidableEq ι] {F : Fragment ι} {s : Stream ι} (I : RunInvariant F s)

/-- Whether all runs of a parser on the stream meet the invariant. -/
def Keeps (p : Parser Recorded ι α) : Prop := ∀ pos, Yields (p s pos) fun step t => I.Holds pos step.outline t

variable {I} {p : Parser Recorded ι α} {q : Parser Recorded ι β}

theorem Keeps.run (hp : I.Keeps p) : I.Keeps (Parser.run p) := by
  refine fun pos => .note (.bind (hp pos) fun step t hstep => .note (.pure ?_))
  simpa using I.run hstep

/-! ## Single combinators -/

theorem yields_fails (start : Nat) (w : Furthest) {seen : Option Furthest} {t : List Event}
    (ht : I.Holds start (.success () w.pos seen) t) :
    Yields (Parser.fails w : Recorded (Step α)) fun step t' => I.Holds start (step.aggregate seen).outline (t ++ t') :=
  .note (.pure (I.after ht (I.fails w)))

theorem yields_raises {e : DefinitionError} {pos start : Nat} {seen : Option Furthest} {t : List Event}
    (ht : I.Holds start (.success () pos seen) t)
    (he : e = .unresolved ∨ e = .emptyLoop pos ∨ F.marks ∧ s.position pos = .error e) :
    Yields (Parser.raises e : Recorded (Step α)) fun step t' => I.Holds start step.outline (t ++ t') :=
  .note (.pure (I.after ht (I.raises he)))

theorem Keeps.map (f : α → β) (hp : I.Keeps p) : I.Keeps (Parser.map f p) := fun pos =>
  .bind (hp.run pos) fun step t hstep => .pure (by simpa using hstep)

theorem Keeps.bind {f : α → Parser Recorded ι β} (hp : I.Keeps p) (hf : ∀ v, I.Keeps (f v)) :
    I.Keeps (Parser.bind p f) := by
  intro pos
  refine .bind (hp.run pos) fun step t hstep => ?_
  cases step with
  | success v next seen =>
    exact .bind ((hf v).run next) fun step' t' hstep' => .pure (by simpa using I.after hstep hstep')
  | fail q w => exact .pure (by simpa using hstep)
  | error e => exact .pure (by simpa using hstep)

theorem Keeps.thenCombine (f : α → β → γ) (hp : I.Keeps p) (hq : I.Keeps q) :
    I.Keeps (Parser.thenCombine f p q) := by
  intro pos
  refine .bind (hp.run pos) fun step t hstep => ?_
  cases step with
  | success v next seen =>
    exact .bind (hq.run next) fun step' t' hstep' => .pure (by simpa using I.after hstep hstep')
  | fail q w => exact .pure (by simpa using hstep)
  | error e => exact .pure (by simpa using hstep)

theorem Keeps.debug (label : String) (inspect : α → String) (hp : I.Keeps p) :
    I.Keeps (Parser.debug label inspect p) := by
  refine fun pos => .bind (hp.run pos) fun step t hstep => .note (.pure ?_)
  exact I.tell hstep

theorem Keeps.peek (hp : I.Keeps p) : I.Keeps (Parser.peek p) := by
  intro pos
  refine .bind (hp.run pos) fun step t hstep => ?_
  cases step with
  | success v next seen => exact .pure (by simpa using I.stay hstep)
  | fail q w => exact .pure (by simpa using hstep)
  | error e => exact .pure (by simpa using hstep)

theorem Keeps.desc (hF : F.forgetful) (d : String) (hp : I.Keeps p) : I.Keeps (Parser.desc d p) := by
  intro pos
  refine .bind (hp.run pos) fun step t hstep => ?_
  cases step with
  | success v next seen => exact .pure (by simpa using hstep)
  | fail q w =>
    simp only
    split_ifs
    · exact (yields_fails pos (.of pos d) (I.recover hF hstep)).mono fun step t' h => by simpa using h
    · exact .pure (by simpa using hstep)
  | error e => exact .pure (by simpa using hstep)

theorem Keeps.shouldFail (hF : F.forgetful) (d : String) (hp : I.Keeps p) : I.Keeps (Parser.shouldFail d p) := by
  intro pos
  refine .bind (hp.run pos) fun step t hstep => ?_
  cases step with
  | success v next seen =>
    exact (yields_fails pos (.of pos d) (I.forget hF (I.stay hstep))).mono fun step t' h => by simpa using h
  | fail q w => exact .pure (by simpa [Step.done] using I.recover hF hstep)
  | error e => exact .pure (by simpa using hstep)

theorem Keeps.mark (hF : F.marks) (hp : I.Keeps p) : I.Keeps (Parser.mark p) := by
  intro pos
  refine .bind (hp.run pos) fun step t hstep => ?_
  cases step with
  | success v next seen =>
    simp only
    split
    next => exact .pure (by simpa using hstep)
    next e _ he => exact yields_raises (I.stay hstep) (.inr (.inr ⟨hF, he⟩))
    next e he _ => exact yields_raises hstep (.inr (.inr ⟨hF, he⟩))
  | fail q w => exact .pure (by simpa using hstep)
  | error e => exact .pure (by simpa using hstep)

/-! ## Rows and choices -/

theorem yields_seqFrom {ps : List (Parser Recorded ι α)} (hps : ∀ p ∈ ps, I.Keeps p) {start pos : Nat}
    {values : Array α} {seen : Option Furthest} {t : List Event} (ht : I.Holds start (.success () pos seen) t) :
    Yields (Parser.seqFrom s ps values pos seen) fun step t' => I.Holds start step.outline (t ++ t') := by
  induction ps generalizing values pos seen t with
  | nil => exact .pure (by simpa using ht)
  | cons p ps ih =>
    refine .bind ((hps p (List.mem_cons_self ..)).run pos) fun step t' hstep => ?_
    have hsofar := I.after ht hstep
    rw [← Step.outline_aggregate] at hsofar
    simp only [← List.append_assoc]
    cases hagg : step.aggregate seen with
    | success v next w =>
      rw [hagg] at hsofar
      exact ih (fun p hp => hps p (List.mem_cons_of_mem _ hp)) hsofar
    | fail q w => exact .pure (by simpa [hagg] using hsofar)
    | error e => exact .pure (by simpa [hagg] using hsofar)

theorem Keeps.seq {ps : List (Parser Recorded ι α)} (hps : ∀ p ∈ ps, I.Keeps p) : I.Keeps (Parser.seq ps) :=
  fun _ => yields_seqFrom hps I.start

theorem yields_altFrom {ps : List (Parser Recorded ι α)} (hps : ∀ p ∈ ps, I.Keeps p) {pos q : Nat} {w : Furthest}
    {t : List Event} (ht : I.Holds pos (.fail q w) t) :
    Yields (Parser.altFrom s pos ps q (some w)) fun step t' => I.Holds pos step.outline (t ++ t') := by
  induction ps generalizing q w t with
  | nil => exact .pure (by simpa using ht)
  | cons p ps ih =>
    refine .bind ((hps p (List.mem_cons_self ..)).run pos) fun step t' hstep => ?_
    have hsofar := I.retry ht hstep
    rw [← Step.outline_aggregate] at hsofar
    simp only [← List.append_assoc]
    cases hagg : step.aggregate (some w) with
    | success v next w => exact .pure (by simpa [hagg] using hsofar)
    | fail q w =>
      rw [hagg] at hsofar
      exact ih (fun p hp => hps p (List.mem_cons_of_mem _ hp)) hsofar
    | error e => exact .pure (by simpa [hagg] using hsofar)

theorem Keeps.alt {ps : List (Parser Recorded ι α)} (hps : ∀ p ∈ ps, I.Keeps p) : I.Keeps (Parser.alt ps) := by
  intro pos
  cases ps with
  | nil => exact (yields_fails pos (.nothing pos) I.start).mono fun step t' h => by simpa using h
  | cons p ps =>
    refine .bind ((hps p (List.mem_cons_self ..)).run pos) fun step t hstep => ?_
    rw [Step.aggregate_none]
    cases step with
    | success v next w => exact .pure (by simpa using hstep)
    | fail q w => exact yields_altFrom (fun p hp => hps p (List.mem_cons_of_mem _ hp)) hstep
    | error e => exact .pure (by simpa using hstep)

/-! ## Repetition -/

theorem after_success {start pos next : Nat} {seen w : Option Furthest} {t t' : List Event}
    (ht : I.Holds start (.success () pos seen) t) (ht' : I.Holds pos (.success () next w) t') :
    I.Holds start (.success () next (Furthest.merge seen w)) (t ++ t') := by
  rw [Furthest.merge_comm]
  exact I.after ht ht'

theorem after_fail {start pos q : Nat} {seen : Option Furthest} {w : Furthest} {t t' : List Event}
    (ht : I.Holds start (.success () pos seen) t) (ht' : I.Holds pos (.fail q w) t') :
    I.Holds start (.success () pos (Furthest.merge seen (some w))) (t ++ t') := by
  have hstay : I.Holds pos (.success () pos (some w)) t' := by simpa using I.retry ht' I.start
  exact after_success ht hstay

theorem yields_timesEnd {b : Bounds} {values : Array α} {start pos : Nat} {seen : Option Furthest}
    {t : List Event} (ht : I.Holds start (.success () pos seen) t) :
    Yields (Parser.timesEnd b values pos seen) fun step t' => I.Holds start step.outline (t ++ t') := by
  rw [Parser.timesEnd]
  split_ifs
  · exact .bind (yields_fails start (.of pos _) ht) fun step t' h => .pure (by simpa using h)
  · exact .pure (by simpa using ht)

theorem yields_timesFrom {b : Bounds} (hp : I.Keeps p) {allowance start pos : Nat} {values : Array α}
    {seen : Option Furthest} {t : List Event} (ht : I.Holds start (.success () pos seen) t) :
    Yields (Parser.timesFrom b p s allowance values pos seen) fun step t' => I.Holds start step.outline (t ++ t') := by
  induction allowance generalizing values pos seen t with
  | zero =>
    rw [Parser.timesFrom]
    split_ifs
    · exact .giveUp
    · exact yields_timesEnd ht
  | succ n ih =>
    refine .bind (hp.run pos) fun step t' hstep => ?_
    simp only [← List.append_assoc]
    cases step with
    | success v next w =>
      simp only
      split_ifs with hstall
      · obtain rfl : next = pos := by simp_all [Parser.stalls]
        exact yields_raises (after_success ht hstep) (.inr (.inl rfl))
      · exact ih (after_success ht hstep)
    | fail q w =>
      simp only
      split_ifs
      · exact .pure (by simpa using I.after ht hstep)
      · exact yields_timesEnd (after_fail ht hstep)
    | error e => exact .pure (by simpa using I.after ht hstep)

theorem Keeps.times (budget : Nat) (b : Bounds) (hp : I.Keeps p) : I.Keeps (Parser.times budget b p) := fun _ =>
  yields_timesFrom hp I.start

theorem yields_untilItem (hF : F.forgetful) {b : Bounds} (hp : I.Keeps p)
    {again : Option (Array α → Nat → Option Furthest → Recorded (Step (List α)))} {missed : Option Furthest}
    {start pos : Nat} {values : Array α} {seen : Option Furthest} {t : List Event}
    (ht : I.Holds start (.success () pos seen) t)
    (hmissed : b.min ≤ values.size → I.Holds start (.success () pos (Furthest.merge missed seen)) t)
    (hagain : ∀ go ∈ again, ∀ values next seen t, I.Holds start (.success () next seen) t →
      Yields (go values next seen) fun step t' => I.Holds start step.outline (t ++ t')) :
    Yields (Parser.untilItem b p s again missed values pos seen)
      fun step t' => I.Holds start step.outline (t ++ t') := by
  unfold Parser.untilItem
  cases b.max.filter (· ≤ values.size) with
  | some max => exact (yields_fails start (.of pos _) (I.forget hF ht)).mono fun step t' h => by simpa using h
  | none =>
    cases again with
    | none => exact .giveUp
    | some go =>
      refine .bind (hp.run pos) fun step t' hstep => ?_
      simp only [← List.append_assoc]
      cases step with
      | success v next w =>
        simp only
        split_ifs with hstall
        · obtain rfl : next = pos := by simp_all [Parser.stalls]
          exact yields_raises (after_success ht hstep) (.inr (.inl rfl))
        · exact hagain go rfl _ _ _ _ (after_success ht hstep)
      | fail q w =>
        simp only
        split_ifs with hmin
        · exact .pure (by simpa [Furthest.absorb_absorb] using I.after (hmissed hmin) hstep)
        · have hforgot := I.forget hF (after_fail ht hstep)
          exact (yields_fails start (.of pos _) hforgot).mono fun step t'' h => by simpa using h
      | error e => exact .pure (by simpa using I.after ht hstep)

theorem yields_untilTurn (hF : F.forgetful) {b : Bounds} {keep : β → Option α} (hp : I.Keeps p) (hq : I.Keeps q)
    {again : Option (Array α → Nat → Option Furthest → Recorded (Step (List α)))} {start pos : Nat}
    {values : Array α} {seen : Option Furthest} {t : List Event} (ht : I.Holds start (.success () pos seen) t)
    (hagain : ∀ go ∈ again, ∀ values next seen t, I.Holds start (.success () next seen) t →
      Yields (go values next seen) fun step t' => I.Holds start step.outline (t ++ t')) :
    Yields (Parser.untilTurn b keep p q s again values pos seen)
      fun step t' => I.Holds start step.outline (t ++ t') := by
  refine .bind (hq.run pos) fun halt t' hhalt => ?_
  simp only [← List.append_assoc]
  cases halt with
  | success u next w =>
    simp only
    split_ifs with hmin
    · cases keep u with
      | none => exact .pure (by simpa using after_success ht (I.stay hhalt))
      | some v => exact .pure (by simpa using after_success ht hhalt)
    · refine yields_untilItem hF hp ?_ (fun h => absurd h hmin) hagain
      simpa using I.after ht (I.forget hF (I.stay hhalt))
  | fail q w =>
    refine yields_untilItem hF hp ?_ (fun _ => ?_) hagain
    · simpa using I.after ht (I.recover hF hhalt)
    · rw [Furthest.merge_comm]
      exact after_fail ht hhalt
  | error e => exact .pure (by simpa using I.after ht hhalt)

theorem yields_untilFrom (hF : F.forgetful) {b : Bounds} {keep : β → Option α} (hp : I.Keeps p) (hq : I.Keeps q)
    {allowance start pos : Nat} {values : Array α} {seen : Option Furthest} {t : List Event}
    (ht : I.Holds start (.success () pos seen) t) :
    Yields (Parser.untilFrom b keep p q s allowance values pos seen)
      fun step t' => I.Holds start step.outline (t ++ t') := by
  induction allowance generalizing values pos seen t with
  | zero => exact yields_untilTurn hF hp hq ht fun go hgo => nomatch hgo
  | succ n ih =>
    refine yields_untilTurn hF hp hq ht fun go hgo values next seen t h => ?_
    obtain rfl := Option.mem_some.1 hgo
    exact ih h

theorem Keeps.repeatUntil (hF : F.forgetful) (budget : Nat) (b : Bounds) (keep : β → Option α) (hp : I.Keeps p)
    (hq : I.Keeps q) : I.Keeps (Parser.repeatUntil budget b keep p q) := fun _ => yields_untilFrom hF hp hq I.start

/-! ## Routines -/

theorem yields_generateFrom {ρ : Type} {turn : ρ → Option α → ρ × Next (Parser Recorded ι α) (Parser Recorded ι β) β}
    (hask : ∀ state last state' p, turn state last = (state', .ask p) → I.Keeps p)
    (hrest : ∀ state last state' q, turn state last = (state', .handOver q) → I.Keeps q)
    {budget start pos : Nat} {state : ρ} {last : Option α} {seen : Option Furthest} {t : List Event}
    (ht : I.Holds start (.success () pos seen) t) :
    Yields (Parser.generateFrom turn s budget state last pos seen)
      fun step t' => I.Holds start step.outline (t ++ t') := by
  induction budget generalizing state last pos seen t with
  | zero => exact .giveUp
  | succ n ih =>
    rw [Parser.generateFrom]
    split
    next state' p hturn =>
      refine .bind ((hask _ _ _ _ hturn).run pos) fun step t' hstep => ?_
      simp only [← List.append_assoc]
      cases step with
      | success v next w => exact ih (after_success ht hstep)
      | fail q w => exact .pure (by simpa using I.after ht hstep)
      | error e => exact .pure (by simpa using I.after ht hstep)
    next v _ => exact .pure (by simpa using ht)
    next q hturn =>
      exact .bind ((hrest _ _ _ _ hturn).run pos) fun step t' hstep => .pure (by simpa using I.after ht hstep)

theorem Keeps.generate {ρ : Type} {turn : ρ → Option α → ρ × Next (Parser Recorded ι α) (Parser Recorded ι β) β}
    (hask : ∀ state last state' p, turn state last = (state', .ask p) → I.Keeps p)
    (hrest : ∀ state last state' q, turn state last = (state', .handOver q) → I.Keeps q) (budget : Nat) (first : ρ) :
    I.Keeps (Parser.generate budget first turn) := fun _ => yields_generateFrom hask hrest I.start

/-! ## Grammars -/

variable {refs : (slot : Nat) → Parser Recorded ι (Γ slot)} {d : Declarations ι Γ}

theorem keeps_leaf {l : Leaf ι α} (hl : F.leaf l) (budget : Nat) :
    I.Keeps ((Grammar.leaf l : Grammar ι Γ α).parser budget refs) := by
  intro pos
  have hstep : I.Holds pos (l.step s pos).outline (l.step s pos).news := I.leaf hl
  simp only [Grammar.parser]
  cases hs : l.step s pos with
  | success v next w => exact .pure (by simpa [hs, Step.news] using hstep)
  | fail q w => exact .note (.pure (by simpa [hs, Step.news] using hstep))
  | error e => exact .note (.pure (by simpa [hs, Step.news] using hstep))

theorem keeps_grammar (hrefs : ∀ slot, I.Keeps (refs slot)) (budget : Nat) {g : Grammar ι Γ α} (hg : g.Within F) :
    I.Keeps (g.parser budget refs) := by
  induction g with
  | leaf l => exact keeps_leaf hg budget
  | ref slot => exact hrefs slot
  | map f g ih => exact (ih hg).map f
  | bind g f ihg ihf => exact (ihg hg.1).bind fun v => ihf v (hg.2 v)
  | thenCombine f g h ihg ihh => exact (ihg hg.1).thenCombine f (ihh hg.2)
  | row n parts ih =>
    refine Keeps.seq fun p hp => ?_
    obtain ⟨i, rfl⟩ := List.mem_ofFn.1 hp
    exact ih i (hg i)
  | choice n branches ih =>
    refine Keeps.alt fun p hp => ?_
    obtain ⟨i, rfl⟩ := List.mem_ofFn.1 hp
    exact ih i (hg i)
  | desc d g ih => exact (ih hg.2).desc hg.1 d
  | mark g ih => exact (ih hg.2).mark hg.1
  | peek g ih => exact (ih hg).peek
  | shouldFail d g ih => exact (ih hg.2).shouldFail hg.1 d
  | debug label inspect g ih => exact (ih hg).debug label inspect
  | times b g ih => exact (ih hg).times budget b
  | repeatUntil b keep g stop ihg ihs => exact (ihg hg.2.1).repeatUntil hg.1 budget b keep (ihs hg.2.2)
  | routine first turn asked rest iha ihr =>
    refine Keeps.generate (fun state last state' p hturn => ?_) (fun state last state' q hturn => ?_) budget first
    · split at hturn <;> cases hturn
      exact iha state last (hg.1 state last)
    · split at hturn <;> cases hturn
      exact ihr state last (hg.2 state last)

theorem keeps_call (hd : d.Within F) (budget slot : Nat) : I.Keeps (d.call budget slot) := by
  induction budget generalizing slot with
  | zero =>
    intro pos
    cases hbody : d.body? slot with
    | none =>
      rw [Declarations.call_of_none hbody]
      exact (yields_raises I.start (.inl rfl)).mono fun step t h => by simpa using h
    | some g =>
      rw [Declarations.call_zero hbody]
      exact .giveUp
  | succ n ih =>
    intro pos
    cases hbody : d.body? slot with
    | none =>
      rw [Declarations.call_of_none hbody]
      exact (yields_raises I.start (.inl rfl)).mono fun step t h => by simpa using h
    | some g =>
      rw [Declarations.call_succ hbody]
      exact (keeps_grammar ih n (hd slot g hbody)).run pos

/-- An invariant holds of every run of every grammar of its fragment. -/
theorem yields_runAt (hd : d.Within F) {g : Grammar ι Γ α} (hg : g.Within F) (budget pos : Nat) :
    Yields (d.runAt budget g s pos) fun step t => I.Holds pos step.outline t :=
  (keeps_grammar (keeps_call hd budget) budget hg).run pos

end RunInvariant

end Descent
