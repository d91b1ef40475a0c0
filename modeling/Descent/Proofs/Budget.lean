import Descent.Proofs.AnyCheck
import Descent.Proofs.Report

/-!
# Budgets

A run may give up when its budget is spent. Otherwise the budget does not show: what a run comes back with it comes back
with under every larger budget (`runAt_mono`). So a grammar comes to at most one step from an offset
(`Declarations.ComesTo`, `ComesTo.unique`), the one that it comes back with under every budget that is large enough.

`Below x y` says of two plain runs that `y` comes back with what `x` comes back with, if it does. Every combinator keeps
this relation between its parts, and so do loops of which the second may go on for longer.
-/

namespace Descent

variable {ι : Type} [Item ι] {Γ : Nat → Type} {α β γ ρ : Type}

/-- Whether the second run comes back with what the first comes back with, if it comes back at all. -/
def Below (x y : Option α) : Prop := ∀ a, x = some a → y = some a

namespace Below

theorem refl (x : Option α) : Below x x := fun _ h => h

theorem giveUp (y : Option α) : Below Monitor.giveUp y := nofun

theorem bind {x y : Option α} {f g : α → Option β} (h : Below x y) (hf : ∀ a, Below (f a) (g a)) :
    Below (x >>= f) (y >>= g) := by
  intro b hb
  obtain ⟨a, ha, hfa⟩ := Option.bind_eq_some_iff.1 hb
  exact Option.bind_eq_some_iff.2 ⟨a, h a ha, hf a b hfa⟩

end Below

/-! ## Parsers -/

def AllBelow (p q : Parser Option ι α) : Prop := ∀ s pos, Below (p s pos) (q s pos)

namespace AllBelow

variable {p p' : Parser Option ι α} {q q' : Parser Option ι β} {s : Stream ι}

theorem run (hp : AllBelow p p') : AllBelow (Parser.run p) (Parser.run p') := fun s pos =>
  .bind (.refl _) fun _ => .bind (hp s pos) fun _ => .refl _

theorem map (f : α → β) (hp : AllBelow p p') : AllBelow (Parser.map f p) (Parser.map f p') := fun s pos =>
  .bind (hp.run s pos) fun _ => .refl _

theorem bind {f f' : α → Parser Option ι β} (hp : AllBelow p p') (hf : ∀ v, AllBelow (f v) (f' v)) :
    AllBelow (Parser.bind p f) (Parser.bind p' f') := by
  intro s pos
  refine .bind (hp.run s pos) fun step => ?_
  cases step with
  | success v next seen => exact .bind ((hf v).run s next) fun _ => .refl _
  | fail r w => exact .refl _
  | error e => exact .refl _

theorem thenCombine (f : α → β → γ) (hp : AllBelow p p') (hq : AllBelow q q') :
    AllBelow (Parser.thenCombine f p q) (Parser.thenCombine f p' q') := by
  intro s pos
  refine .bind (hp.run s pos) fun step => ?_
  cases step with
  | success v next seen => exact .bind (hq.run s next) fun _ => .refl _
  | fail r w => exact .refl _
  | error e => exact .refl _

theorem desc (d : String) (hp : AllBelow p p') : AllBelow (Parser.desc d p) (Parser.desc d p') := fun s pos =>
  .bind (hp.run s pos) fun _ => .refl _

theorem mark (hp : AllBelow p p') : AllBelow (Parser.mark p) (Parser.mark p') := fun s pos =>
  .bind (hp.run s pos) fun _ => .refl _

theorem peek (hp : AllBelow p p') : AllBelow (Parser.peek p) (Parser.peek p') := fun s pos =>
  .bind (hp.run s pos) fun _ => .refl _

theorem shouldFail (d : String) (hp : AllBelow p p') : AllBelow (Parser.shouldFail d p) (Parser.shouldFail d p') :=
  fun s pos => .bind (hp.run s pos) fun _ => .refl _

theorem debug (label : String) (inspect : α → String) (hp : AllBelow p p') :
    AllBelow (Parser.debug label inspect p) (Parser.debug label inspect p') := fun s pos =>
  .bind (hp.run s pos) fun _ => .refl _

/-! ### Rows and choices -/

theorem seqFrom {n : Nat} {ps ps' : Fin n → Parser Option ι α} (hps : ∀ i, AllBelow (ps i) (ps' i)) (values : Array α)
    (pos : Nat) (seen : Option Furthest) :
    Below (Parser.seqFrom s (List.ofFn ps) values pos seen)
      (Parser.seqFrom s (List.ofFn ps') values pos seen) := by
  induction n generalizing values pos seen with
  | zero => exact .refl _
  | succ n ih =>
    rw [List.ofFn_succ, List.ofFn_succ]
    refine .bind ((hps 0).run s pos) fun step => ?_
    cases step.aggregate seen with
    | success v next w => exact ih (fun i => hps i.succ) (values.push v) next w
    | fail r w => exact .refl _
    | error e => exact .refl _

theorem altFrom {n : Nat} {ps ps' : Fin n → Parser Option ι α} (hps : ∀ i, AllBelow (ps i) (ps' i))
    (pos failedAt : Nat) (seen : Option Furthest) :
    Below (Parser.altFrom s pos (List.ofFn ps) failedAt seen)
      (Parser.altFrom s pos (List.ofFn ps') failedAt seen) := by
  induction n generalizing failedAt seen with
  | zero => exact .refl _
  | succ n ih =>
    rw [List.ofFn_succ, List.ofFn_succ]
    refine .bind ((hps 0).run s pos) fun step => ?_
    cases step.aggregate seen with
    | success v next w => exact .refl _
    | fail r w => exact ih (fun i => hps i.succ) r (some w)
    | error e => exact .refl _

/-! ### Loops -/

/-- A repetition with a greatest number runs its item as often as that, whatever the budget is. -/
theorem timesWith (check : Parser.TurnCheck) {b : Bounds} (hp : AllBelow p p') {n n' : Nat}
    (hn : n = n' ∨ b.max = none ∧ n ≤ n') (values : Array α) (pos : Nat) (seen : Option Furthest) :
    Below (Parser.timesWith check b p s n values pos seen)
      (Parser.timesWith check b p' s n' values pos seen) := by
  induction n generalizing n' values pos seen with
  | zero =>
    rcases hn with rfl | ⟨hmax, -⟩
    · exact .refl _
    · rw [Parser.timesWith, if_pos (by simp [hmax])]
      exact .giveUp _
  | succ n ih =>
    obtain ⟨k, rfl⟩ : ∃ k, n' = k + 1 := ⟨n' - 1, by omega⟩
    refine .bind (hp.run s pos) fun step => ?_
    cases step with
    | success v next w =>
      simp only
      split
      · exact .refl _
      · exact ih (hn.imp Nat.succ.inj (And.imp_right Nat.le_of_succ_le_succ)) _ _ _
    | fail r w => exact .refl _
    | error e => exact .refl _

variable {again again' : Option (Array α → Nat → Option Furthest → Option (Step (List α)))}

theorem untilItemWith (check : Parser.TurnCheck) (b : Bounds) (hp : AllBelow p p')
    (hagain : ∀ go ∈ again, ∃ go' ∈ again', ∀ values pos seen, Below (go values pos seen) (go' values pos seen))
    (missed : Option Furthest) (values : Array α) (pos : Nat) (seen : Option Furthest) :
    Below (Parser.untilItemWith check b p s again missed values pos seen)
      (Parser.untilItemWith check b p' s again' missed values pos seen) := by
  unfold Parser.untilItemWith
  cases b.max.filter (· ≤ values.size) with
  | some max => exact .refl _
  | none =>
    cases again with
    | none => exact .giveUp _
    | some go =>
      obtain ⟨go', rfl, hgo⟩ := hagain go rfl
      refine .bind (hp.run s pos) fun step => ?_
      cases step with
      | success v next w =>
        simp only
        split
        · exact .refl _
        · exact hgo _ _ _
      | fail r w => exact .refl _
      | error e => exact .refl _

theorem untilTurnWith (check : Parser.TurnCheck) (b : Bounds) (keep : β → Option α) (hp : AllBelow p p')
    (hq : AllBelow q q')
    (hagain : ∀ go ∈ again, ∃ go' ∈ again', ∀ values pos seen, Below (go values pos seen) (go' values pos seen))
    (values : Array α) (pos : Nat) (seen : Option Furthest) :
    Below (Parser.untilTurnWith check b keep p q s again values pos seen)
      (Parser.untilTurnWith check b keep p' q' s again' values pos seen) := by
  refine .bind (hq.run s pos) fun halt => ?_
  cases halt with
  | success u next w =>
    simp only
    split
    · exact .refl _
    · exact untilItemWith check b hp hagain none values pos seen
  | fail r w => exact untilItemWith check b hp hagain (some w) values pos seen
  | error e => exact .refl _

theorem untilWith (check : Parser.TurnCheck) (b : Bounds) (keep : β → Option α) (hp : AllBelow p p')
    (hq : AllBelow q q') {n n' : Nat} (hn : n ≤ n') (values : Array α) (pos : Nat) (seen : Option Furthest) :
    Below (Parser.untilWith check b keep p q s n values pos seen)
      (Parser.untilWith check b keep p' q' s n' values pos seen) := by
  induction n generalizing n' values pos seen with
  | zero =>
    cases n' <;> refine untilTurnWith check b keep hp hq ?_ values pos seen <;> simp
  | succ n ih =>
    obtain ⟨k, rfl⟩ : ∃ k, n' = k + 1 := ⟨n' - 1, by omega⟩
    refine untilTurnWith check b keep hp hq (fun go hgo => ?_) values pos seen
    obtain rfl := Option.mem_some.1 hgo
    exact ⟨_, rfl, fun values pos seen => ih (by omega) values pos seen⟩

theorem allowance_mono (b : Bounds) {n n' : Nat} (hn : n ≤ n') :
    b.allowance n = b.allowance n' ∨ b.max = none ∧ b.allowance n ≤ b.allowance n' := by
  cases hmax : b.max with
  | none => exact .inr ⟨rfl, by simp [Bounds.allowance, hmax, hn]⟩
  | some max => exact .inl (by simp [Bounds.allowance, hmax])

theorem times (b : Bounds) (hp : AllBelow p p') {n n' : Nat} (hn : n ≤ n') :
    AllBelow (Parser.times n b p) (Parser.times n' b p') := by
  intro s pos
  rw [Parser.times, Parser.times, Parser.timesFrom_eq_timesWith, Parser.timesFrom_eq_timesWith]
  exact timesWith (Parser.stalls b) hp (allowance_mono b hn) #[] pos none

theorem repeatUntil (b : Bounds) (keep : β → Option α) (hp : AllBelow p p') (hq : AllBelow q q') {n n' : Nat}
    (hn : n ≤ n') : AllBelow (Parser.repeatUntil n b keep p q) (Parser.repeatUntil n' b keep p' q') := by
  intro s pos
  have hallow : b.allowance n ≤ b.allowance n' := by
    rcases allowance_mono b hn with h | ⟨-, h⟩
    · exact Nat.le_of_eq h
    · exact h
  rw [Parser.repeatUntil, Parser.repeatUntil, Parser.untilFrom_eq_untilWith, Parser.untilFrom_eq_untilWith]
  exact untilWith (Parser.stalls b) b keep hp hq hallow #[] pos none

/-- Two turns of a routine that do the same, with parsers of which the second come back when the first do. -/
inductive Turn :
    Next (Parser Option ι α) (Parser Option ι β) β → Next (Parser Option ι α) (Parser Option ι β) β → Prop
  | ask {p p' : Parser Option ι α} (hp : AllBelow p p') : Turn (.ask p) (.ask p')
  | answer (v : β) : Turn (.answer v) (.answer v)
  | handOver {q q' : Parser Option ι β} (hq : AllBelow q q') : Turn (.handOver q) (.handOver q')

theorem generateFrom {turn turn' : ρ → Option α → ρ × Next (Parser Option ι α) (Parser Option ι β) β}
    (hturn : ∀ state last, ∃ state' next next', turn state last = (state', next) ∧
      turn' state last = (state', next') ∧ Turn next next')
    {n n' : Nat} (hn : n ≤ n') (state : ρ) (last : Option α) (pos : Nat) (seen : Option Furthest) :
    Below (Parser.generateFrom turn s n state last pos seen)
      (Parser.generateFrom turn' s n' state last pos seen) := by
  induction n generalizing n' state last pos seen with
  | zero => exact .giveUp _
  | succ n ih =>
    obtain ⟨k, rfl⟩ : ∃ k, n' = k + 1 := ⟨n' - 1, by omega⟩
    obtain ⟨state', next, next', hleft, hright, hnext⟩ := hturn state last
    rw [Parser.generateFrom, Parser.generateFrom, hleft, hright]
    cases hnext with
    | ask hp =>
      refine .bind (hp.run s pos) fun step => ?_
      cases step with
      | success v next w => exact ih (by omega) state' (some v) next _
      | fail r w => exact .refl _
      | error e => exact .refl _
    | answer v => exact .refl _
    | handOver hq => exact .bind (hq.run s pos) fun _ => .refl _

end AllBelow

/-! ## Grammars -/

variable [DecidableEq ι]

theorem Grammar.parser_below {refs refs' : (slot : Nat) → Parser Option ι (Γ slot)}
    (hrefs : ∀ slot, AllBelow (refs slot) (refs' slot)) {n n' : Nat} (hn : n ≤ n') (g : Grammar ι Γ α) :
    AllBelow (g.parser n refs) (g.parser n' refs') := by
  induction g with
  | leaf l => exact fun s pos => .refl _
  | ref slot => exact hrefs slot
  | map f g ih => exact ih.map f
  | bind g f ihg ihf => exact ihg.bind ihf
  | thenCombine f g h ihg ihh => exact ihg.thenCombine f ihh
  | row k parts ih => exact fun s pos => AllBelow.seqFrom ih #[] pos none
  | choice k branches ih => exact fun s pos => AllBelow.altFrom ih pos pos none
  | desc d g ih => exact ih.desc d
  | mark g ih => exact ih.mark
  | peek g ih => exact ih.peek
  | shouldFail d g ih => exact ih.shouldFail d
  | debug label inspect g ih => exact ih.debug label inspect
  | times b g ih => exact ih.times b hn
  | repeatUntil b keep g stop ihg ihs => exact ihg.repeatUntil b keep ihs hn
  | routine first turn asked rest iha ihr =>
    refine fun s pos => AllBelow.generateFrom (fun state last => ?_) hn first none pos none
    rcases turn state last with ⟨state', move⟩
    cases move with
    | ask => exact ⟨state', _, _, rfl, rfl, .ask (iha state last)⟩
    | answer v => exact ⟨state', _, _, rfl, rfl, .answer v⟩
    | handOver => exact ⟨state', _, _, rfl, rfl, .handOver (ihr state last)⟩

namespace Declarations

variable {d : Declarations ι Γ} {g : Grammar ι Γ α} {s : Stream ι} {pos : Nat} {step : Step α}

theorem call_below (d : Declarations ι Γ) {n n' : Nat} (hn : n ≤ n') (slot : Nat) :
    AllBelow (d.call n slot : Parser Option ι (Γ slot)) (d.call n' slot) := by
  induction n generalizing n' slot with
  | zero =>
    intro s pos
    cases hbody : d.body? slot with
    | none =>
      rw [call_of_none hbody, call_of_none hbody]
      exact .refl _
    | some g =>
      rw [call_zero hbody]
      exact .giveUp _
  | succ n ih =>
    obtain ⟨k, rfl⟩ : ∃ k, n' = k + 1 := ⟨n' - 1, by omega⟩
    intro s pos
    cases hbody : d.body? slot with
    | none =>
      rw [call_of_none hbody, call_of_none hbody]
      exact .refl _
    | some g =>
      rw [call_succ hbody, call_succ hbody]
      exact (Grammar.parser_below (fun slot => ih (by omega) slot) (by omega) g).run s pos

theorem runAt_mono {n n' : Nat} (hn : n ≤ n') (h : d.runAt n g s pos = some step) :
    d.runAt n' g s pos = some step :=
  (Grammar.parser_below (call_below d hn) hn g).run s pos step h

/-! ## What a grammar comes to -/

/-- Whether the grammar comes back with the step under every budget that is large enough. -/
def ComesTo (d : Declarations ι Γ) (g : Grammar ι Γ α) (s : Stream ι) (pos : Nat) (step : Step α) : Prop :=
  ∃ n, ∀ budget, n ≤ budget → d.runAt budget g s pos = some step

theorem comesTo_of_runAt {n : Nat} (h : d.runAt n g s pos = some step) : d.ComesTo g s pos step :=
  ⟨n, fun _ hn => runAt_mono hn h⟩

theorem comesTo_iff : d.ComesTo g s pos step ↔ ∃ n, d.runAt n g s pos = some step :=
  ⟨fun ⟨n, h⟩ => ⟨n, h n (Nat.le_refl n)⟩, fun ⟨_, h⟩ => comesTo_of_runAt h⟩

theorem ComesTo.unique {step' : Step α} (h : d.ComesTo g s pos step) (h' : d.ComesTo g s pos step') :
    step = step' := by
  obtain ⟨n, hn⟩ := h
  obtain ⟨n', hn'⟩ := h'
  have hboth := (hn (max n n') (Nat.le_max_left n n')).symm.trans (hn' (max n n') (Nat.le_max_right n n'))
  exact Option.some.inj hboth

end Declarations

end Descent
