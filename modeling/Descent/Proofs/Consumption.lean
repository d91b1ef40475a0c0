import Descent.Proofs.Invariant
import Descent.Proofs.Outcome
import Descent.Proofs.Parallel
import Descent.Proofs.Turns

/-!
# Grammars that consume

From any offset of a stream, be it a boundary or not, a run of a grammar without parsers written by hand succeeds no
earlier in the stream, and not behind its end (`advances_of_runAt`). Some grammars do not succeed without moving on,
whatever stands for the declarations that they refer to: `Grammar.Consumes` reads this off a grammar, and
`Grammar.Consumes.moves` proves it of its runs.
-/

namespace Descent

variable {ι : Type} [Item ι] {Γ : Nat → Type} {α β γ : Type}

/-! ## Leaves -/

namespace Stream

theorem extent_pos {items : List ι} (h : items ≠ []) : 0 < extent items := by
  cases items with
  | nil => exact absurd rfl h
  | cons a as => exact Nat.lt_of_lt_of_le (Item.width_pos a) (Nat.le_add_right _ _)

theorem extent_takeAt_le {s : Stream ι} {pos : Nat} (hpos : pos ≤ s.length) (count : Nat) :
    pos + extent (s.takeAt count pos) ≤ s.length := by
  cases count with
  | zero => exact hpos
  | succ n =>
    rw [takeAt]
    cases hitem : s.itemAt pos with
    | none => exact hpos
    | some item =>
      obtain ⟨a, next⟩ := item
      obtain rfl := (itemAt_eq_some_iff.1 hitem).2
      rw [extent_cons, ← Nat.add_assoc]
      exact (ahead_takeAt (ahead_itemAt hitem).boundary n).le_length

theorem spanEnd_bounds {s : Stream ι} {pos : Nat} (hpos : pos ≤ s.length) (accepts : ι → Bool) (count : Nat) :
    pos ≤ s.spanEnd accepts count pos ∧ s.spanEnd accepts count pos ≤ s.length := by
  cases count with
  | zero => exact ⟨Nat.le_refl pos, hpos⟩
  | succ n =>
    rw [spanEnd]
    cases hitem : s.itemAt pos with
    | none => exact ⟨Nat.le_refl pos, hpos⟩
    | some item =>
      have hfirst := ahead_itemAt (show s.itemAt pos = some (item.1, item.2) from hitem)
      simp only
      split_ifs
      · have hspan := hfirst.trans (ahead_spanEnd hfirst.boundary accepts n)
        exact ⟨hspan.le, hspan.le_length⟩
      · exact ⟨Nat.le_refl pos, hpos⟩

end Stream

theorem advances_leaf [DecidableEq ι] {s : Stream ι} {pos : Nat} (hpos : pos ≤ s.length) {l : Leaf ι α}
    (hl : l.IsOffered) : (l.step s pos).Advances pos s.length := by
  have hhere {β : Type} (v : β) : (Step.done v pos).Advances pos s.length := ⟨Nat.le_refl pos, hpos⟩
  cases l with
  | succeed v => exact hhere v
  | fail d => trivial
  | eof =>
    rw [Leaf.step]
    split_ifs
    · exact hhere ()
    · trivial
  | index => exact hhere pos
  | position =>
    rw [Leaf.step]
    split
    · exact hhere _
    · trivial
  | lineInfo =>
    rw [Leaf.step]
    split
    · exact hhere _
    · trivial
    · trivial
  | satisfies accepts d =>
    rw [Leaf.step]
    split
    next a next hitem =>
      have hnext := Stream.ahead_itemAt hitem
      split_ifs
      · exact ⟨hnext.le, hnext.le_length⟩
      · trivial
    next => trivial
  | literal items d =>
    rw [Leaf.step]
    split_ifs with h
    · exact ⟨Nat.le_add_right pos _, (Stream.ahead_hasAt h).le_length⟩
    · trivial
  | upTo count accepts d =>
    rw [Leaf.step]
    split_ifs
    · exact ⟨Nat.le_add_right pos _, Stream.extent_takeAt_le hpos count⟩
    · trivial
  | exactly count accepts d =>
    rw [Leaf.step]
    split_ifs
    · exact ⟨Nat.le_add_right pos _, Stream.extent_takeAt_le hpos count⟩
    · trivial
  | span accepts d =>
    rw [Leaf.step]
    split_ifs
    · trivial
    · exact Stream.spanEnd_bounds hpos accepts s.length
  | pattern matcher groups =>
    rw [Leaf.step]
    split
    next r hfind => exact ⟨(matcher.find_stop hfind).1, Stream.le_length_of_isBoundary (matcher.find_stop hfind).2⟩
    next => trivial
  | handWritten step => exact hl.elim

/-! ## Runs advance -/

namespace Step

variable {pos next limit : Nat}

theorem advances_outline {step : Step α} : step.outline.Advances pos limit ↔ step.Advances pos limit := by
  cases step <;> rfl

theorem advances_aggregate {step : Step α} (w : Option Furthest) :
    (step.aggregate w).Advances pos limit ↔ step.Advances pos limit := by
  cases step <;> rfl

theorem Advances.mono {step : Step α} (h : step.Advances next limit) (hle : pos ≤ next) : step.Advances pos limit := by
  cases step with
  | success v q w => exact ⟨Nat.le_trans hle h.1, h.2⟩
  | fail q w => trivial
  | error e => trivial

end Step

def advance [DecidableEq ι] (s : Stream ι) : RunInvariant (.library ι) s where
  Holds pos step _ := pos ≤ s.length → step.Advances pos s.length
  start hpos := ⟨Nat.le_refl _, hpos⟩
  leaf hl hpos := Step.advances_outline.2 (advances_leaf hpos hl)
  fails _ _ := trivial
  raises _ _ := trivial
  run h := h
  tell h := h
  after h h' hpos := (Step.advances_aggregate _).2 ((h' (h hpos).2).mono (h hpos).1)
  retry _ h' hpos := (Step.advances_aggregate _).2 (h' hpos)
  stay _ hpos := ⟨Nat.le_refl _, hpos⟩
  forget _ h := h
  recover _ _ hpos := ⟨Nat.le_refl _, hpos⟩

section Runs

variable [DecidableEq ι] {d : Declarations ι Γ} {g : Grammar ι Γ α} {budget : Nat} {s : Stream ι}

theorem advances_of_runAt (hd : d.Within (.library ι)) (hg : g.Within (.library ι)) {pos : Nat} {step : Step α}
    (hpos : pos ≤ s.length) (hrun : d.runAt budget g s pos = some step) : step.Advances pos s.length := by
  obtain ⟨events, hrecorded⟩ := exists_recorded hrun
  obtain ⟨_, _, hadvances⟩ := (advance s).yields_runAt hd hg budget pos _ _ _ hrecorded
  exact Step.advances_outline.1 (hadvances hpos)

end Runs

/-! ## Parsers that move -/

/-- Whether what a plain run comes back with, if it does, meets `Q`. -/
def Brings (x : Option α) (Q : α → Prop) : Prop := ∀ a, x = some a → Q a

namespace Brings

variable {x : Option α} {P Q : α → Prop}

theorem pure {a : α} (h : Q a) : Brings (some a) Q := by
  rintro _ ⟨⟩
  exact h

theorem giveUp : Brings (giveUp : Option α) Q := nofun

theorem bind {f : α → Option β} {R : β → Prop} (hx : Brings x P) (hf : ∀ a, P a → Brings (f a) R) :
    Brings (x >>= f) R := by
  intro b hb
  obtain ⟨a, ha, hfa⟩ := Option.bind_eq_some_iff.1 hb
  exact hf a (hx a ha) b hfa

theorem mono (h : Brings x P) (hPQ : ∀ a, P a → Q a) : Brings x Q := fun a ha => hPQ a (h a ha)

end Brings

def Step.Past (pos : Nat) : Step α → Prop
  | success _ next _ => pos < next
  | _ => True

def GoesOn (p : Parser Option ι α) (s : Stream ι) : Prop :=
  ∀ pos ≤ s.length, Brings (p s pos) fun step => step.Advances pos s.length

def Moves (p : Parser Option ι α) (s : Stream ι) : Prop := ∀ pos ≤ s.length, Brings (p s pos) (Step.Past pos)

section Moves

variable {p : Parser Option ι α} {q : Parser Option ι β} {s : Stream ι} {pos : Nat}

theorem GoesOn.run (hp : GoesOn p s) (hpos : pos ≤ s.length) :
    Brings (Parser.run p s pos) fun step => step.Advances pos s.length := by
  rw [Parser.run_plain]
  exact hp pos hpos

theorem Moves.run (hp : Moves p s) (hpos : pos ≤ s.length) : Brings (Parser.run p s pos) (Step.Past pos) := by
  rw [Parser.run_plain]
  exact hp pos hpos

theorem Moves.map (f : α → β) (hp : Moves p s) : Moves (Parser.map f p) s := by
  refine fun pos hpos => (hp.run hpos).bind fun step hstep => .pure ?_
  cases step <;> exact hstep

theorem Moves.desc (d : String) (hp : Moves p s) : Moves (Parser.desc d p) s := by
  refine fun pos hpos => (hp.run hpos).bind fun step hstep => ?_
  cases step with
  | success v next w => exact .pure hstep
  | fail q w =>
    simp only
    split
    · exact .pure trivial
    · exact .pure trivial
  | error e => exact .pure trivial

theorem Moves.mark (hp : Moves p s) : Moves (Parser.mark p) s := by
  refine fun pos hpos => (hp.run hpos).bind fun step hstep => ?_
  cases step with
  | success v next w =>
    simp only
    split
    · exact .pure hstep
    · exact .pure trivial
    · exact .pure trivial
  | fail q w => exact .pure trivial
  | error e => exact .pure trivial

theorem Moves.debug (label : String) (inspect : α → String) (hp : Moves p s) :
    Moves (Parser.debug label inspect p) s := fun _ hpos => (hp.run hpos).bind fun _ hstep => .pure hstep

/-! ### One after another -/

theorem GoesOn.both (hp : GoesOn p s) (hpos : pos ≤ s.length) :
    Brings (Parser.run p s pos) fun step => step.Advances pos s.length ∧ (Moves p s → step.Past pos) :=
  fun step hrun => ⟨hp.run hpos step hrun, fun hmoves => hmoves.run hpos step hrun⟩

theorem Step.Past.after {next limit : Nat} {step : Step α} {P P' : Prop} (hle : pos ≤ next) (hmoves : P → pos < next)
    (h : step.Advances next limit) (h' : P' → step.Past next) (hor : P ∨ P') : step.Past pos := by
  cases step with
  | success v q w =>
    rcases hor with hP | hP'
    · exact Nat.lt_of_lt_of_le (hmoves hP) h.1
    · exact Nat.lt_of_le_of_lt hle (h' hP')
  | fail q w => trivial
  | error e => trivial

theorem Step.past_aggregate {step : Step α} (w : Option Furthest) : (step.aggregate w).Past pos ↔ step.Past pos := by
  cases step <;> rfl

theorem Step.past_map {step : Step α} (f : α → β) : (step.map f).Past pos ↔ step.Past pos := by
  cases step <;> rfl

theorem Moves.thenCombine (f : α → β → γ) (hp : GoesOn p s) (hq : GoesOn q s) (h : Moves p s ∨ Moves q s) :
    Moves (Parser.thenCombine f p q) s := by
  refine fun pos hpos => (hp.both hpos).bind fun step hstep => ?_
  cases step with
  | success v next seen =>
    refine (hq.both hstep.1.2).bind fun step' hstep' => .pure ?_
    rw [Step.past_map, Step.past_aggregate]
    exact .after hstep.1.1 hstep.2 hstep'.1 hstep'.2 h
  | fail q w => exact .pure trivial
  | error e => exact .pure trivial

theorem Moves.bind {f : α → Parser Option ι β} (hp : GoesOn p s) (hf : ∀ v, GoesOn (f v) s)
    (h : Moves p s ∨ ∀ v, Moves (f v) s) : Moves (Parser.bind p f) s := by
  refine fun pos hpos => (hp.both hpos).bind fun step hstep => ?_
  cases step with
  | success v next seen =>
    refine ((hf v).both hstep.1.2).bind fun step' hstep' => .pure ?_
    rw [Step.past_aggregate]
    exact .after hstep.1.1 hstep.2 hstep'.1 hstep'.2 (h.imp_right fun hmoves => hmoves v)
  | fail q w => exact .pure trivial
  | error e => exact .pure trivial

theorem brings_seqFrom {ps : List (Parser Option ι α)} (hps : ∀ p ∈ ps, GoesOn p s) (hpos : pos ≤ s.length)
    (values : Array α) (seen : Option Furthest) :
    Brings (Parser.seqFrom s ps values pos seen) fun step =>
      step.Advances pos s.length ∧ ((∃ p ∈ ps, Moves p s) → step.Past pos) := by
  induction ps generalizing values pos seen with
  | nil => exact .pure ⟨⟨Nat.le_refl pos, hpos⟩, fun ⟨p, hp, _⟩ => nomatch hp⟩
  | cons p ps ih =>
    refine ((hps p (List.mem_cons_self ..)).both hpos).bind fun step hstep => ?_
    cases step with
    | success v next w =>
      refine (ih (fun p hp => hps p (List.mem_cons_of_mem _ hp)) hstep.1.2 _ _).mono fun last hlast => ?_
      refine ⟨hlast.1.mono hstep.1.1, fun hsome => .after hstep.1.1 hstep.2 hlast.1 hlast.2 ?_⟩
      simpa using hsome
    | fail q w => exact .pure ⟨trivial, fun _ => trivial⟩
    | error e => exact .pure ⟨trivial, fun _ => trivial⟩

/-! ### One or another -/

theorem brings_altFrom {ps : List (Parser Option ι α)} (hps : ∀ p ∈ ps, Moves p s) (hpos : pos ≤ s.length)
    (failedAt : Nat) (seen : Option Furthest) : Brings (Parser.altFrom s pos ps failedAt seen) (Step.Past pos) := by
  induction ps generalizing failedAt seen with
  | nil => cases seen <;> exact .pure trivial
  | cons p ps ih =>
    refine ((hps p (List.mem_cons_self ..)).run hpos).bind fun step hstep => ?_
    cases step with
    | success v next w => exact .pure hstep
    | fail q w => exact ih (fun p hp => hps p (List.mem_cons_of_mem _ hp)) _ _
    | error e => exact .pure trivial

/-! ### Repetition -/

theorem brings_timesEnd (b : Bounds) (hpos : pos ≤ s.length) (values : Array α) (seen : Option Furthest) {P : Prop} :
    Brings (Parser.timesEnd b values pos seen) fun step =>
      step.Advances pos s.length ∧ (values.size < b.min ∧ P → step.Past pos) := by
  rw [Parser.timesEnd]
  split
  · exact .pure ⟨trivial, fun _ => trivial⟩
  next hmin => exact .pure ⟨⟨Nat.le_refl pos, hpos⟩, fun h => absurd h.1 hmin⟩

theorem brings_timesFrom (b : Bounds) (hp : GoesOn p s) (hpos : pos ≤ s.length) (allowance : Nat) (values : Array α)
    (seen : Option Furthest) :
    Brings (Parser.timesFrom b p s allowance values pos seen) fun step =>
      step.Advances pos s.length ∧ (values.size < b.min ∧ Moves p s → step.Past pos) := by
  induction allowance generalizing values pos seen with
  | zero =>
    rw [Parser.timesFrom]
    split
    · exact .giveUp
    · exact brings_timesEnd b hpos values seen
  | succ n ih =>
    refine (hp.both hpos).bind fun step hstep => ?_
    cases step with
    | success v next w =>
      simp only
      split
      · exact .pure ⟨trivial, fun _ => trivial⟩
      · refine (ih hstep.1.2 (values.push v) _).mono fun last hlast => ?_
        exact ⟨hlast.1.mono hstep.1.1, fun h => .after hstep.1.1 hstep.2 hlast.1 hlast.2 (.inl h.2)⟩
    | fail q w =>
      simp only
      split
      · exact .pure ⟨trivial, fun _ => trivial⟩
      · exact brings_timesEnd b hpos values _
    | error e => exact .pure ⟨trivial, fun _ => trivial⟩

theorem Moves.times (budget : Nat) {b : Bounds} (hmin : 0 < b.min) (hp : GoesOn p s) (hmoves : Moves p s) :
    Moves (Parser.times budget b p) s := fun _ hpos =>
  (brings_timesFrom b hp hpos (b.allowance budget) #[] none).mono fun _ hstep => hstep.2 ⟨hmin, hmoves⟩

end Moves

/-! ## Grammars that consume -/

def Leaf.Consumes : Leaf ι α → Prop
  | .satisfies .. | .span .. => True
  | .literal items _ => items ≠ []
  | .exactly count .. => count ≠ 0
  | _ => False

/-- Whether a grammar does not succeed without moving, whatever it refers to. -/
def Grammar.Consumes : {α : Type} → Grammar ι Γ α → Prop
  | _, .leaf l => l.Consumes
  | _, .ref _ => False
  | _, .map _ g => g.Consumes
  | _, .bind g f => g.Consumes ∨ ∀ v, (f v).Consumes
  | _, .thenCombine _ g h => g.Consumes ∨ h.Consumes
  | _, .row _ parts => ∃ i, (parts i).Consumes
  | _, .choice _ branches => ∀ i, (branches i).Consumes
  | _, .desc _ g => g.Consumes
  | _, .mark g => g.Consumes
  | _, .peek _ => False
  | _, .shouldFail _ _ => False
  | _, .debug _ _ g => g.Consumes
  | _, .times b g => 0 < b.min ∧ g.Consumes
  | _, .repeatUntil .. => False
  | _, .routine .. => False

section Grammars

variable [DecidableEq ι] {d : Declarations ι Γ} {s : Stream ι} {pos : Nat}

theorem past_leaf {l : Leaf ι α} (hl : l.Consumes) (hpos : pos ≤ s.length) : (l.step s pos).Past pos := by
  cases l with
  | satisfies accepts d =>
    rw [Leaf.step]
    split
    next a next hitem =>
      split_ifs
      · exact Stream.lt_of_itemAt hitem
      · trivial
    next => trivial
  | literal items d =>
    rw [Leaf.step]
    split_ifs
    · exact Nat.lt_add_of_pos_right (Stream.extent_pos hl)
    · trivial
  | exactly count accepts d =>
    rw [Leaf.step]
    split_ifs with h
    · simp only [Bool.and_eq_true, beq_iff_eq] at h
      refine Nat.lt_add_of_pos_right (Stream.extent_pos fun hnil => ?_)
      rw [hnil] at h
      exact hl h.1.2.symm
    · trivial
  | span accepts d =>
    rw [Leaf.step]
    split_ifs with h
    · trivial
    · exact Nat.lt_of_le_of_ne (Stream.spanEnd_bounds hpos accepts s.length).1 (Ne.symm h)
  | _ => exact hl.elim

theorem goesOn_grammar (hd : d.Within (.library ι)) {g : Grammar ι Γ α} (hg : g.Within (.library ι)) (budget : Nat) :
    GoesOn (d.parser budget g) s := fun pos hpos _ hrun =>
  advances_of_runAt hd hg hpos ((Parser.run_plain (d.parser budget g) s pos).trans hrun)

theorem Grammar.Consumes.moves (hd : d.Within (.library ι)) {g : Grammar ι Γ α} (hg : g.Within (.library ι))
    (h : g.Consumes) (budget : Nat) : Moves (d.parser budget g) s := by
  induction g with
  | leaf l =>
    intro pos hpos
    rw [Declarations.parser, Grammar.parser_leaf]
    exact .pure (past_leaf h hpos)
  | ref slot => exact h.elim
  | map f g ih => exact (ih hg h).map f
  | bind g f ihg ihf =>
    exact Moves.bind (goesOn_grammar hd hg.1 budget) (fun v => goesOn_grammar hd (hg.2 v) budget)
      (h.imp (ihg hg.1) fun hf v => ihf v (hg.2 v) (hf v))
  | thenCombine f g g' ihg ihg' =>
    exact Moves.thenCombine f (goesOn_grammar hd hg.1 budget) (goesOn_grammar hd hg.2 budget)
      (h.imp (ihg hg.1) (ihg' hg.2))
  | row n parts ih =>
    intro pos hpos
    refine (brings_seqFrom (fun p hp => ?_) hpos #[] none).mono fun step hstep => hstep.2 ?_
    · obtain ⟨i, rfl⟩ := List.mem_ofFn.1 hp
      exact goesOn_grammar hd (hg i) budget
    · obtain ⟨i, hi⟩ := h
      exact ⟨_, List.mem_ofFn.2 ⟨i, rfl⟩, ih i (hg i) hi⟩
  | choice n branches ih =>
    refine fun pos hpos => brings_altFrom (fun p hp => ?_) hpos pos none
    obtain ⟨i, rfl⟩ := List.mem_ofFn.1 hp
    exact ih i (hg i) (h i)
  | desc d g ih => exact (ih hg.2 h).desc d
  | mark g ih => exact (ih hg.2 h).mark
  | peek g ih => exact h.elim
  | shouldFail d g ih => exact h.elim
  | debug label inspect g ih => exact (ih hg h).debug label inspect
  | times b g ih => exact .times budget h.1 (goesOn_grammar (g := g) hd hg budget) (ih hg h.2)
  | repeatUntil b keep g stop ihg ihs => exact h.elim
  | routine first turn asked rest iha ihr => exact h.elim

end Grammars

end Descent
