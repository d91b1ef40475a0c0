import Descent.Parse
import Descent.Proofs.Fragment
import Descent.Proofs.Shift

/-!
# Runs side by side

A recorded run on one stream, from `k` offsets further on, is compared with a plain run on another stream. When the
leaves of a fragment do the same on both sides up to the offsets (`Alongside`), so do all its grammars
(`plain_runAt_shift`): the streams only have to agree on what is ahead.

With `k = 0` and one stream this says that recording changes nothing (`plain_runAt`): the recorded run comes back with
what the plain run comes back with.
-/

namespace Descent

variable {ι : Type} [Item ι] {Γ : Nat → Type} {α β γ : Type}

/-! ## What a recorded run comes back with -/

/-- The recorded run adds the same events whatever there is on record before, and comes back with what the plain one
comes back with. -/
def Plain (x : Recorded α) (y : Option α) : Prop :=
  ∃ r : Option (α × Array Event), (∀ before, x before = r.map fun a => (a.1, before ++ a.2)) ∧ r.map Prod.fst = y

theorem map_fst_added (r : Option (α × Array Event)) (new : Array Event) :
    (r.map fun a => (a.1, new ++ a.2)).map Prod.fst = r.map Prod.fst := by
  cases r <;> rfl

theorem Plain.unique {x : Recorded α} {y y' : Option α} (h : Plain x y) (h' : Plain x y') : y = y' := by
  obtain ⟨r, hrun, rfl⟩ := h
  obtain ⟨r', hrun', rfl⟩ := h'
  have hsame := congrArg (Option.map Prod.fst) ((hrun #[]).symm.trans (hrun' #[]))
  rwa [map_fst_added, map_fst_added] at hsame

theorem Plain.pure (a : α) : Plain (pure a) (some a) :=
  ⟨some (a, #[]), fun _ => congrArg some (Prod.ext rfl Array.append_empty.symm), rfl⟩

theorem Plain.giveUp : Plain (giveUp : Recorded α) none := ⟨none, fun _ => rfl, rfl⟩

theorem Plain.note {e : Event} {f : Unit → Recorded α} {y : Option α} (h : Plain (f ()) y) :
    Plain (note e >>= f) y := by
  obtain ⟨r, hrun, hr⟩ := h
  refine ⟨r.map fun a => (a.1, #[e] ++ a.2), fun before => ?_, (map_fst_added r #[e]).trans hr⟩
  change f () (before.push e) = _
  rw [hrun]
  cases r with
  | none => rfl
  | some a =>
    have happ : before.push e ++ a.2 = before ++ (#[e] ++ a.2) := by rw [← Array.append_assoc, Array.append_singleton]
    exact congrArg some (Prod.ext rfl happ)

theorem Plain.bind {x : Recorded α} {y : Option α} {f : α → Recorded β} {g : α → Option β} {φ : α → α} {ψ : β → β}
    (hx : Plain x (y.map φ)) (hf : ∀ a, Plain (f (φ a)) ((g a).map ψ)) : Plain (x >>= f) ((y >>= g).map ψ) := by
  obtain ⟨r, hrun, hr⟩ := hx
  cases y with
  | none =>
    obtain rfl : r = none := by simpa using hr
    refine ⟨none, fun before => ?_, rfl⟩
    change ((x before).bind fun b => f b.1 b.2) = none
    rw [hrun]
    rfl
  | some a =>
    obtain ⟨⟨b, new⟩, rfl, rfl⟩ := Option.map_eq_some_iff.1 hr
    obtain ⟨r', hrun', hr'⟩ := hf a
    refine ⟨r'.map fun c => (c.1, new ++ c.2), fun before => ?_, (map_fst_added r' new).trans hr'⟩
    change ((x before).bind fun b => f b.1 b.2) = _
    rw [hrun]
    change f (φ a) (before ++ new) = _
    rw [hrun']
    cases r' with
    | none => rfl
    | some c => simp

/-! ## Parsers side by side -/

/-- From `k` offsets further on, the first parser does on `s` what the second does on `t`. -/
def Alongside (k : Nat) (s t : Stream ι) (p : Parser Recorded ι α) (q : Parser Option ι α) : Prop :=
  ∀ pos, Plain (p s (k + pos)) ((q t pos).map (Step.shift k))

namespace Alongside

variable {k : Nat} {s t : Stream ι} {p : Parser Recorded ι α} {p' : Parser Option ι α} {q : Parser Recorded ι β}
  {q' : Parser Option ι β}

theorem run (hp : Alongside k s t p p') : Alongside k s t p.run p'.run := fun pos =>
  .note (.bind (hp pos) fun _ => .note (.pure _))

theorem fails {w w' : Furthest} (hw : w' = w.shift k) :
    Plain (Parser.fails w' : Recorded (Step α)) ((Parser.fails w : Option (Step α)).map (Step.shift k)) := by
  subst hw
  exact .note (.pure _)

theorem raises {e e' : DefinitionError} (he : e' = e.shift k) :
    Plain (Parser.raises e' : Recorded (Step α)) ((Parser.raises e : Option (Step α)).map (Step.shift k)) := by
  subst he
  exact .note (.pure _)

theorem both {a b : Step α} (h : b = a.shift k) :
    Plain (pure b : Recorded (Step α)) ((pure a : Option (Step α)).map (Step.shift k)) := h ▸ Plain.pure _

theorem map (f : α → β) (hp : Alongside k s t p p') : Alongside k s t (Parser.map f p) (Parser.map f p') :=
  fun pos => .bind (hp.run pos) fun step => both (Step.shift_map k f step).symm

theorem bind {f : α → Parser Recorded ι β} {f' : α → Parser Option ι β} (hp : Alongside k s t p p')
    (hf : ∀ v, Alongside k s t (f v) (f' v)) : Alongside k s t (Parser.bind p f) (Parser.bind p' f') := by
  refine fun pos => .bind (hp.run pos) fun step => ?_
  cases step with
  | success v next seen =>
    exact .bind ((hf v).run next) fun step' => both (Step.shift_aggregate k seen step').symm
  | fail r w => exact both rfl
  | error e => exact both rfl

theorem thenCombine (f : α → β → γ) (hp : Alongside k s t p p') (hq : Alongside k s t q q') :
    Alongside k s t (Parser.thenCombine f p q) (Parser.thenCombine f p' q') := by
  refine fun pos => .bind (hp.run pos) fun step => ?_
  cases step with
  | success v next seen => exact .bind (hq.run next) fun step' => both (by simp)
  | fail r w => exact both rfl
  | error e => exact both rfl

theorem debug (label : String) (inspect : α → String) (hp : Alongside k s t p p') :
    Alongside k s t (Parser.debug label inspect p) (Parser.debug label inspect p') :=
  fun pos => .bind (hp.run pos) fun _ => .note (.pure _)

theorem peek (hp : Alongside k s t p p') : Alongside k s t (Parser.peek p) (Parser.peek p') := by
  refine fun pos => .bind (hp.run pos) fun step => ?_
  cases step <;> exact both rfl

theorem desc (d : String) (hp : Alongside k s t p p') : Alongside k s t (Parser.desc d p) (Parser.desc d p') := by
  refine fun pos => .bind (hp.run pos) fun step => ?_
  cases step with
  | success v next seen => exact both rfl
  | fail r w =>
    simp only [Step.shift_fail, Furthest.pos_shift, Nat.add_le_add_iff_left]
    split_ifs
    · exact fails rfl
    · exact both rfl
  | error e => exact both rfl

theorem shouldFail (d : String) (hp : Alongside k s t p p') :
    Alongside k s t (Parser.shouldFail d p) (Parser.shouldFail d p') := by
  refine fun pos => .bind (hp.run pos) fun step => ?_
  cases step with
  | success v next seen => exact fails rfl
  | fail r w => exact both rfl
  | error e => exact both rfl

/-- Positions are the same on both sides only where nothing is moved. -/
theorem mark (hk : k = 0) (hst : s = t) (hp : Alongside k s t p p') :
    Alongside k s t (Parser.mark p) (Parser.mark p') := by
  subst hk hst
  refine fun pos => .bind (hp.run pos) fun step => ?_
  cases step with
  | success v next seen =>
    simp only [Step.shift_zero, Nat.zero_add]
    cases s.position pos with
    | error e => exact raises (DefinitionError.shift_zero e).symm
    | ok start =>
      cases s.position next with
      | error e => exact raises (DefinitionError.shift_zero e).symm
      | ok stop => exact both (Step.shift_zero _).symm
  | fail r w => exact both rfl
  | error e => exact both rfl

/-! ### Loops -/

theorem seqFrom {n : Nat} {ps : Fin n → Parser Recorded ι α} {ps' : Fin n → Parser Option ι α}
    (hps : ∀ i, Alongside k s t (ps i) (ps' i)) (values : Array α) (pos : Nat) (seen : Option Furthest) :
    Plain (Parser.seqFrom s (List.ofFn ps) values (k + pos) (seen.map (Furthest.shift k)))
      ((Parser.seqFrom t (List.ofFn ps') values pos seen).map (Step.shift k)) := by
  induction n generalizing values pos seen with
  | zero => exact both rfl
  | succ n ih =>
    rw [List.ofFn_succ, List.ofFn_succ]
    refine .bind ((hps 0).run pos) fun step => ?_
    rw [← Step.shift_aggregate]
    cases step.aggregate seen with
    | success v next w => exact ih (fun i => hps i.succ) (values.push v) next w
    | fail r w => exact both rfl
    | error e => exact both rfl

theorem altFrom {n : Nat} {ps : Fin n → Parser Recorded ι α} {ps' : Fin n → Parser Option ι α}
    (hps : ∀ i, Alongside k s t (ps i) (ps' i)) (pos failedAt : Nat) (seen : Option Furthest) :
    Plain (Parser.altFrom s (k + pos) (List.ofFn ps) (k + failedAt) (seen.map (Furthest.shift k)))
      ((Parser.altFrom t pos (List.ofFn ps') failedAt seen).map (Step.shift k)) := by
  induction n generalizing failedAt seen with
  | zero =>
    cases seen with
    | none => exact fails rfl
    | some w => exact both rfl
  | succ n ih =>
    rw [List.ofFn_succ, List.ofFn_succ]
    refine .bind ((hps 0).run pos) fun step => ?_
    rw [← Step.shift_aggregate]
    cases step.aggregate seen with
    | success v next w => exact both rfl
    | fail r w => exact ih (fun i => hps i.succ) r (some w)
    | error e => exact both rfl

theorem stalls_shift (b : Bounds) (count pos next : Nat) :
    Parser.stalls b count (k + pos) (k + next) = Parser.stalls b count pos next := by
  have hmoved : (k + next == k + pos) = (next == pos) := Bool.eq_iff_iff.2 (by simp)
  rw [Parser.stalls, Parser.stalls, hmoved]

theorem timesEnd (b : Bounds) (values : Array α) (pos : Nat) (seen : Option Furthest) :
    Plain (Parser.timesEnd b values (k + pos) (seen.map (Furthest.shift k)))
      ((Parser.timesEnd b values pos seen : Option (Step (List α))).map (Step.shift k)) := by
  rw [Parser.timesEnd, Parser.timesEnd]
  split_ifs
  · exact .bind (fails rfl) fun step => both (Step.shift_aggregate k seen step).symm
  · exact both rfl

theorem timesFrom (b : Bounds) (hp : Alongside k s t p p') (allowance : Nat) (values : Array α) (pos : Nat)
    (seen : Option Furthest) :
    Plain (Parser.timesFrom b p s allowance values (k + pos) (seen.map (Furthest.shift k)))
      ((Parser.timesFrom b p' t allowance values pos seen).map (Step.shift k)) := by
  induction allowance generalizing values pos seen with
  | zero =>
    rw [Parser.timesFrom, Parser.timesFrom]
    split_ifs
    · exact .giveUp
    · exact timesEnd b values pos seen
  | succ n ih =>
    refine .bind (hp.run pos) fun step => ?_
    cases step with
    | success v next w =>
      simp only [Step.shift_success, stalls_shift, ← Furthest.shift_merge]
      split_ifs
      · exact raises rfl
      · exact ih (values.push v) next _
    | fail r w =>
      simp only [Step.shift_fail]
      split_ifs
      · exact both (by simp [Furthest.shift_absorb])
      · rw [← Option.map_some, ← Furthest.shift_merge]
        exact timesEnd b values pos _
    | error e => exact both rfl

/-- Two loops go on alike, from `k` offsets further on in the first. -/
def Onward (k : Nat) (go : Array α → Nat → Option Furthest → Recorded (Step β))
    (go' : Array α → Nat → Option Furthest → Option (Step β)) : Prop :=
  ∀ values pos seen,
    Plain (go values (k + pos) (seen.map (Furthest.shift k))) ((go' values pos seen).map (Step.shift k))

theorem untilItem (b : Bounds) (hp : Alongside k s t p p')
    {again : Option (Array α → Nat → Option Furthest → Recorded (Step (List α)))}
    {again' : Option (Array α → Nat → Option Furthest → Option (Step (List α)))}
    (hagain : Option.Rel (Onward k) again again')
    (missed : Option Furthest) (values : Array α) (pos : Nat) (seen : Option Furthest) :
    Plain (Parser.untilItem b p s again (missed.map (Furthest.shift k)) values (k + pos) (seen.map (Furthest.shift k)))
      ((Parser.untilItem b p' t again' missed values pos seen).map (Step.shift k)) := by
  unfold Parser.untilItem
  cases b.max.filter (· ≤ values.size) with
  | some max => exact fails rfl
  | none =>
    cases hagain with
    | none => exact .giveUp
    | some hgo =>
      refine .bind (hp.run pos) fun step => ?_
      cases step with
      | success v next w =>
        simp only [Step.shift_success, stalls_shift, ← Furthest.shift_merge]
        split_ifs
        · exact raises rfl
        · exact hgo (values.push v) next _
      | fail r w =>
        simp only [Step.shift_fail]
        split_ifs
        · exact both (by simp [Furthest.shift_absorb])
        · exact fails rfl
      | error e => exact both rfl

theorem untilTurn (b : Bounds) (keep : β → Option α) (hp : Alongside k s t p p') (hq : Alongside k s t q q')
    {again : Option (Array α → Nat → Option Furthest → Recorded (Step (List α)))}
    {again' : Option (Array α → Nat → Option Furthest → Option (Step (List α)))}
    (hagain : Option.Rel (Onward k) again again')
    (values : Array α) (pos : Nat) (seen : Option Furthest) :
    Plain (Parser.untilTurn b keep p q s again values (k + pos) (seen.map (Furthest.shift k)))
      ((Parser.untilTurn b keep p' q' t again' values pos seen).map (Step.shift k)) := by
  refine .bind (hq.run pos) fun halt => ?_
  cases halt with
  | success u next w =>
    simp only [Step.shift_success, ← Furthest.shift_merge]
    split_ifs
    · cases keep u with
      | none => exact both rfl
      | some v => exact both rfl
    · exact untilItem b hp hagain none values pos seen
  | fail r w => exact untilItem b hp hagain (some w) values pos seen
  | error e => exact both rfl

theorem untilFrom (b : Bounds) (keep : β → Option α) (hp : Alongside k s t p p') (hq : Alongside k s t q q')
    (allowance : Nat) (values : Array α) (pos : Nat) (seen : Option Furthest) :
    Plain (Parser.untilFrom b keep p q s allowance values (k + pos) (seen.map (Furthest.shift k)))
      ((Parser.untilFrom b keep p' q' t allowance values pos seen).map (Step.shift k)) := by
  induction allowance generalizing values pos seen with
  | zero => exact untilTurn b keep hp hq .none values pos seen
  | succ n ih => exact untilTurn b keep hp hq (.some ih) values pos seen

/-- Two turns of a routine that ask for, answer with or hand over to the same. -/
inductive Turn (k : Nat) (s t : Stream ι) :
    Next (Parser Recorded ι α) (Parser Recorded ι β) β → Next (Parser Option ι α) (Parser Option ι β) β → Prop
  | ask {p : Parser Recorded ι α} {p' : Parser Option ι α} : Alongside k s t p p' → Turn k s t (.ask p) (.ask p')
  | answer (v : β) : Turn k s t (.answer v) (.answer v)
  | handOver {q : Parser Recorded ι β} {q' : Parser Option ι β} :
      Alongside k s t q q' → Turn k s t (.handOver q) (.handOver q')

theorem generateFrom {ρ : Type} {turn : ρ → Option α → ρ × Next (Parser Recorded ι α) (Parser Recorded ι β) β}
    {turn' : ρ → Option α → ρ × Next (Parser Option ι α) (Parser Option ι β) β}
    (hturn : ∀ state last, ∃ state' next next', turn state last = (state', next) ∧
      turn' state last = (state', next') ∧ Turn k s t next next')
    (budget : Nat) (state : ρ) (last : Option α) (pos : Nat) (seen : Option Furthest) :
    Plain (Parser.generateFrom turn s budget state last (k + pos) (seen.map (Furthest.shift k)))
      ((Parser.generateFrom turn' t budget state last pos seen).map (Step.shift k)) := by
  induction budget generalizing state last pos seen with
  | zero => exact .giveUp
  | succ n ih =>
    obtain ⟨state', next, next', hleft, hright, hnext⟩ := hturn state last
    rw [Parser.generateFrom, Parser.generateFrom, hleft, hright]
    cases hnext with
    | ask hp =>
      refine .bind (hp.run pos) fun step => ?_
      cases step with
      | success v next w =>
        simp only [Step.shift_success, ← Furthest.shift_merge]
        exact ih state' (some v) next _
      | fail r w => exact both (by simp [Furthest.shift_absorb])
      | error e => exact both rfl
    | answer v => exact both rfl
    | handOver hq => exact .bind (hq.run pos) fun step => both (Step.shift_aggregate k seen step).symm

end Alongside

/-! ## Grammars side by side -/

/-- The streams look the same to the fragment, from `k` offsets further on in the first. -/
structure Alike [DecidableEq ι] (F : Fragment ι) (k : Nat) (s t : Stream ι) : Prop where
  leaf {α : Type} {l : Leaf ι α} : F.leaf l → ∀ pos, l.step s (k + pos) = (l.step t pos).shift k
  mark : F.marks → k = 0 ∧ s = t

theorem Alike.refl [DecidableEq ι] (F : Fragment ι) (s : Stream ι) : Alike F 0 s s where
  leaf _ pos := by rw [Nat.zero_add, Step.shift_zero]
  mark _ := ⟨rfl, rfl⟩

section Grammars

variable [DecidableEq ι] {F : Fragment ι} {k : Nat} {s t : Stream ι} (h : Alike F k s t) {d : Declarations ι Γ}
  {refs : (slot : Nat) → Parser Recorded ι (Γ slot)} {refs' : (slot : Nat) → Parser Option ι (Γ slot)}

include h

theorem alongside_leaf {l : Leaf ι α} (hl : F.leaf l) (budget : Nat) :
    Alongside k s t ((Grammar.leaf l : Grammar ι Γ α).parser budget refs)
      ((Grammar.leaf l : Grammar ι Γ α).parser budget refs') := by
  intro pos
  simp only [Grammar.parser, h.leaf hl pos]
  cases l.step t pos with
  | success v next w => exact Alongside.both rfl
  | fail r w => exact .note (.pure _)
  | error e => exact Alongside.raises rfl

theorem alongside_grammar (hrefs : ∀ slot, Alongside k s t (refs slot) (refs' slot)) (budget : Nat)
    {g : Grammar ι Γ α} (hg : g.Within F) : Alongside k s t (g.parser budget refs) (g.parser budget refs') := by
  induction g with
  | leaf l => exact alongside_leaf h hg budget
  | ref slot => exact hrefs slot
  | map f g ih => exact (ih hg).map f
  | bind g f ihg ihf => exact (ihg hg.1).bind fun v => ihf v (hg.2 v)
  | thenCombine f g g' ihg ihg' => exact (ihg hg.1).thenCombine f (ihg' hg.2)
  | row n parts ih => exact fun pos => Alongside.seqFrom (fun i => ih i (hg i)) #[] pos none
  | choice n branches ih => exact fun pos => Alongside.altFrom (fun i => ih i (hg i)) pos pos none
  | desc d g ih => exact (ih hg.2).desc d
  | mark g ih => exact (ih hg.2).mark (h.mark hg.1).1 (h.mark hg.1).2
  | peek g ih => exact (ih hg).peek
  | shouldFail d g ih => exact (ih hg.2).shouldFail d
  | debug label inspect g ih => exact (ih hg).debug label inspect
  | times b g ih => exact fun pos => Alongside.timesFrom b (ih hg) _ #[] pos none
  | repeatUntil b keep g stop ihg ihs =>
    exact fun pos => Alongside.untilFrom b keep (ihg hg.2.1) (ihs hg.2.2) _ #[] pos none
  | routine first turn asked rest iha ihr =>
    refine fun pos => Alongside.generateFrom (fun state last => ?_) budget first none pos none
    rcases turn state last with ⟨state', move⟩
    cases move with
    | ask => exact ⟨state', _, _, rfl, rfl, .ask (iha state last (hg.1 state last))⟩
    | answer v => exact ⟨state', _, _, rfl, rfl, .answer v⟩
    | handOver => exact ⟨state', _, _, rfl, rfl, .handOver (ihr state last (hg.2 state last))⟩

theorem alongside_call (hd : d.Within F) (budget slot : Nat) :
    Alongside k s t (d.call budget slot) (d.call budget slot) := by
  induction budget generalizing slot with
  | zero =>
    intro pos
    cases hbody : d.body? slot with
    | none =>
      rw [Declarations.call_of_none hbody, Declarations.call_of_none hbody]
      exact Alongside.raises rfl
    | some g =>
      rw [Declarations.call_zero hbody, Declarations.call_zero hbody]
      exact .giveUp
  | succ n ih =>
    intro pos
    cases hbody : d.body? slot with
    | none =>
      rw [Declarations.call_of_none hbody, Declarations.call_of_none hbody]
      exact Alongside.raises rfl
    | some g =>
      rw [Declarations.call_succ hbody, Declarations.call_succ hbody]
      exact (alongside_grammar h ih n (hd slot g hbody)).run pos

/-- Grammars of a fragment to which two streams look the same run alike on both, up to the offsets. -/
theorem plain_runAt_shift (hd : d.Within F) {g : Grammar ι Γ α} (hg : g.Within F) (budget pos : Nat) :
    Plain (d.runAt budget g s (k + pos)) ((d.runAt budget g t pos : Option (Step α)).map (Step.shift k)) :=
  (alongside_grammar h (alongside_call h hd budget) budget hg).run pos

end Grammars

/-! ## Recording changes nothing -/

variable [DecidableEq ι]

theorem plain_runAt (d : Declarations ι Γ) (budget : Nat) (g : Grammar ι Γ α) (s : Stream ι) (pos : Nat) :
    Plain (d.runAt budget g s pos) (d.runAt budget g s pos) := by
  have h := plain_runAt_shift (Alike.refl (.full ι) s) d.within_full g.within_full budget pos
  rw [Nat.zero_add] at h
  cases hrun : (d.runAt budget g s pos : Option (Step α)) with
  | none => rwa [hrun] at h
  | some step => rwa [hrun, Option.map_some, Step.shift_zero] at h

def Declarations.record (d : Declarations ι Γ) (budget : Nat) (g : Grammar ι Γ α) (s : Stream ι) (pos : Nat) :
    List Event :=
  ((d.runAt budget g s pos : Recorded (Step α)) #[]).elim [] fun r => r.2.toList

variable {d : Declarations ι Γ} {budget : Nat} {g : Grammar ι Γ α} {s : Stream ι} {pos : Nat} {step : Step α}

theorem record_of_recorded {events : Array Event}
    (h : (d.runAt budget g s pos : Recorded (Step α)) #[] = some (step, events)) :
    d.record budget g s pos = events.toList := by
  rw [Declarations.record, h]
  rfl

theorem runAt_recorded (before : Array Event) :
    (d.runAt budget g s pos : Recorded (Step α)) before
      = (d.runAt budget g s pos : Option (Step α)).map fun step =>
        (step, before ++ (d.record budget g s pos).toArray) := by
  obtain ⟨r, hrun, hr⟩ := plain_runAt d budget g s pos
  rw [← hr, Declarations.record, hrun, hrun]
  cases r with
  | none => rfl
  | some a => simp

theorem exists_recorded (hrun : d.runAt budget g s pos = some step) :
    ∃ events : Array Event, (d.runAt budget g s pos : Recorded (Step α)) #[] = some (step, events) :=
  ⟨_, by rw [runAt_recorded, hrun]; rfl⟩

end Descent
