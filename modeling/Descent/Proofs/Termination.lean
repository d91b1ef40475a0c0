import Descent.Grammar.Brackets
import Descent.Proofs.Budget
import Descent.Proofs.Consumption
import Mathlib.Order.Filter.AtTopBot.Basic
import Mathlib.Order.Filter.Finite
import Mathlib.Order.Interval.Finset.Nat

/-!
# Grammars without left recursion come back

A grammar exposes the declarations that it may run where it begins itself, with nothing that consumes before them
(`Grammar.Exposes`). When the declarations have ranks that fall from each of them to those that it exposes
(`Declarations.RankedBy`), there is no way to come round to a declaration without moving on in the stream, and every
grammar without routines comes back from every offset (`ranked_grammars_come_back`).

The induction is on what is left of the stream. At one offset it goes by the ranks of declarations, and for one of them
along its grammar: a part that is not exposed is run further on.
-/

namespace Descent

open Filter

variable {ι : Type} [Item ι] {Γ : Nat → Type} {α β γ : Type}

/-! ## Grammars without left recursion -/

/-- Whether a grammar may run the declaration in a slot where it begins itself. What comes behind a part that consumes
is run further on; lookahead and the turns of a repetition are not. -/
def Grammar.Exposes (slot : Nat) : {α : Type} → Grammar ι Γ α → Prop
  | _, .leaf _ => False
  | _, .ref k => k = slot
  | _, .map _ g => g.Exposes slot
  | _, .bind g f => g.Exposes slot ∨ ¬g.Consumes ∧ ∃ v, (f v).Exposes slot
  | _, .thenCombine _ g h => g.Exposes slot ∨ ¬g.Consumes ∧ h.Exposes slot
  | _, .row _ parts => ∃ i, (parts i).Exposes slot ∧ ∀ j < i, ¬(parts j).Consumes
  | _, .choice _ branches => ∃ i, (branches i).Exposes slot
  | _, .desc _ g => g.Exposes slot
  | _, .mark g => g.Exposes slot
  | _, .peek g => g.Exposes slot
  | _, .shouldFail _ g => g.Exposes slot
  | _, .debug _ _ g => g.Exposes slot
  | _, .times _ g => g.Exposes slot
  | _, .repeatUntil _ _ g stop => g.Exposes slot ∨ stop.Exposes slot
  | _, .routine _ _ asked rest =>
    (∃ state last, (asked state last).Exposes slot) ∨ ∃ state last, (rest state last).Exposes slot

/-- Whether no routine occurs in a grammar, which may go on for ever by itself. -/
def Grammar.NoRoutine : {α : Type} → Grammar ι Γ α → Prop
  | _, .leaf _ => True
  | _, .ref _ => True
  | _, .map _ g => g.NoRoutine
  | _, .bind g f => g.NoRoutine ∧ ∀ v, (f v).NoRoutine
  | _, .thenCombine _ g h => g.NoRoutine ∧ h.NoRoutine
  | _, .row _ parts => ∀ i, (parts i).NoRoutine
  | _, .choice _ branches => ∀ i, (branches i).NoRoutine
  | _, .desc _ g => g.NoRoutine
  | _, .mark g => g.NoRoutine
  | _, .peek g => g.NoRoutine
  | _, .shouldFail _ g => g.NoRoutine
  | _, .debug _ _ g => g.NoRoutine
  | _, .times _ g => g.NoRoutine
  | _, .repeatUntil _ _ g stop => g.NoRoutine ∧ stop.NoRoutine
  | _, .routine .. => False

theorem Grammar.exposes_or {slot : Nat} {g h : Grammar ι Γ α} :
    (Grammar.or g h).Exposes slot ↔ g.Exposes slot ∨ h.Exposes slot := Fin.exists_fin_two

theorem Grammar.noRoutine_or {g h : Grammar ι Γ α} : (Grammar.or g h).NoRoutine ↔ g.NoRoutine ∧ h.NoRoutine :=
  Fin.forall_fin_two

/-- Whether each declaration that has been resolved is of a higher rank than those that it exposes. -/
def Declarations.RankedBy (rank : Nat → Nat) (d : Declarations ι Γ) : Prop :=
  ∀ slot g, d.body? slot = some g → g.NoRoutine ∧ ∀ k, g.Exposes k → rank k < rank slot

/-! ## Parsers that come back -/

def Back (p : Parser Option ι α) (s : Stream ι) (pos : Nat) : Prop := ∃ step, p s pos = some step

section Parsers

variable {p : Parser Option ι α} {q : Parser Option ι β} {s : Stream ι} {pos : Nat}

theorem exists_bind {x : Option α} {f : α → Option β} (hx : ∃ a, x = some a)
    (hf : ∀ a, x = some a → ∃ b, f a = some b) : ∃ b, (x >>= f) = some b := by
  obtain ⟨a, rfl⟩ := hx
  exact hf a rfl

theorem back_run : Back (Parser.run p) s pos ↔ Back p s pos := by
  rw [Back, Back, Parser.run_plain]

theorem Back.bind {f : Step α → Option β} (hp : Back p s pos)
    (hf : ∀ step, p s pos = some step → ∃ b, f step = some b) : ∃ b, (Parser.run p s pos >>= f) = some b := by
  rw [Parser.run_plain]
  exact exists_bind hp hf

theorem Back.map (f : α → β) (hp : Back p s pos) : Back (Parser.map f p) s pos := hp.bind fun _ _ => ⟨_, rfl⟩

theorem Back.debug (label : String) (inspect : α → String) (hp : Back p s pos) :
    Back (Parser.debug label inspect p) s pos := hp.bind fun _ _ => ⟨_, rfl⟩

theorem Back.desc (d : String) (hp : Back p s pos) : Back (Parser.desc d p) s pos := by
  refine hp.bind fun step _ => ?_
  cases step with
  | success v next w => exact ⟨_, rfl⟩
  | fail q w =>
    simp only
    split <;> exact ⟨_, rfl⟩
  | error e => exact ⟨_, rfl⟩

theorem Back.mark (hp : Back p s pos) : Back (Parser.mark p) s pos := by
  refine hp.bind fun step _ => ?_
  cases step with
  | success v next w =>
    simp only
    split <;> exact ⟨_, rfl⟩
  | fail q w => exact ⟨_, rfl⟩
  | error e => exact ⟨_, rfl⟩

theorem Back.peek (hp : Back p s pos) : Back (Parser.peek p) s pos := by
  refine hp.bind fun step _ => ?_
  cases step <;> exact ⟨_, rfl⟩

theorem Back.shouldFail (d : String) (hp : Back p s pos) : Back (Parser.shouldFail d p) s pos := by
  refine hp.bind fun step _ => ?_
  cases step <;> exact ⟨_, rfl⟩

theorem Back.thenCombine (f : α → β → γ) (hp : Back p s pos)
    (hq : ∀ v next w, p s pos = some (.success v next w) → Back q s next) : Back (Parser.thenCombine f p q) s pos := by
  refine hp.bind fun step hstep => ?_
  cases step with
  | success v next w => exact (hq v next w hstep).bind fun _ _ => ⟨_, rfl⟩
  | fail q w => exact ⟨_, rfl⟩
  | error e => exact ⟨_, rfl⟩

theorem Back.andThen {f : α → Parser Option ι β} (hp : Back p s pos)
    (hf : ∀ v next w, p s pos = some (.success v next w) → Back (f v) s next) : Back (Parser.bind p f) s pos := by
  refine hp.bind fun step hstep => ?_
  cases step with
  | success v next w => exact (hf v next w hstep).bind fun _ _ => ⟨_, rfl⟩
  | fail q w => exact ⟨_, rfl⟩
  | error e => exact ⟨_, rfl⟩

theorem exists_altFrom {ps : List (Parser Option ι α)} (hps : ∀ p ∈ ps, Back p s pos) (failedAt : Nat)
    (seen : Option Furthest) : ∃ step, Parser.altFrom s pos ps failedAt seen = some step := by
  induction ps generalizing failedAt seen with
  | nil => cases seen <;> exact ⟨_, rfl⟩
  | cons p ps ih =>
    refine (hps p (List.mem_cons_self ..)).bind fun step _ => ?_
    cases step.aggregate seen with
    | success v next w => exact ⟨_, rfl⟩
    | fail q w => exact ih (fun p hp => hps p (List.mem_cons_of_mem _ hp)) q (some w)
    | error e => exact ⟨_, rfl⟩

end Parsers

/-! ## Grammars that come back -/

section Grammars

variable [DecidableEq ι] {d : Declarations ι Γ} {s : Stream ι} {pos : Nat}

/-- Whether the grammar comes back from an offset under every budget that is large enough. -/
def Declarations.Returns (d : Declarations ι Γ) (g : Grammar ι Γ α) (s : Stream ι) (pos : Nat) : Prop :=
  ∀ᶠ budget in atTop, Back (d.parser budget g) s pos

def Declarations.AllReturn (d : Declarations ι Γ) (s : Stream ι) (pos : Nat) : Prop :=
  ∀ {α : Type} (g : Grammar ι Γ α), g.Within (.library ι) → g.NoRoutine → d.Returns g s pos

theorem exists_comesTo_iff {g : Grammar ι Γ α} : (∃ step, d.ComesTo g s pos step) ↔ d.Returns g s pos := by
  constructor
  · rintro ⟨step, n, hrun⟩
    filter_upwards [eventually_ge_atTop n] with budget hbudget
    exact back_run.1 ⟨step, hrun budget hbudget⟩
  · intro h
    obtain ⟨budget, hback⟩ := h.exists
    obtain ⟨step, hrun⟩ := back_run.2 hback
    exact ⟨step, Declarations.comesTo_of_runAt hrun⟩

/-- What stands behind a part is run where the part began only if that does not consume. -/
theorem returns_behind (hd : d.Within (.library ι)) {g : Grammar ι Γ α} (hg : g.Within (.library ι)) {h : Grammar ι Γ β}
    (hpos : pos ≤ s.length) (hhere : ¬g.Consumes → d.Returns h s pos)
    (hlater : ∀ q, pos < q → q ≤ s.length → d.Returns h s q) {v : α} {next : Nat} {w : Option Furthest}
    (hstep : d.ComesTo g s pos (.success v next w)) : d.Returns h s next := by
  obtain ⟨n, hrun⟩ := hstep
  have hadvances := advances_of_runAt hd hg hpos (hrun n (Nat.le_refl n))
  rcases Nat.eq_or_lt_of_le hadvances.1 with rfl | hnext
  · refine hhere fun hconsumes => ?_
    have hmoves : Moves (d.parser n g) s := hconsumes.moves hd hg n
    have hback := hrun n (Nat.le_refl n)
    rw [Declarations.runAt, Parser.run_plain] at hback
    exact absurd (hmoves pos hpos _ hback) (Nat.lt_irrefl pos)
  · exact hlater next hnext hadvances.2

theorem eventually_behind {g : Grammar ι Γ α} (hg : d.Returns g s pos) {P : Nat → α → Nat → Prop}
    (hP : ∀ v next w, d.ComesTo g s pos (.success v next w) → ∀ᶠ budget in atTop, P budget v next) :
    ∀ᶠ budget in atTop, Back (d.parser budget g) s pos ∧
      ∀ v next w, d.parser budget g s pos = some (.success v next w) → P budget v next := by
  obtain ⟨step, n, hstep⟩ := exists_comesTo_iff.2 hg
  have hrun : ∀ᶠ budget in atTop, d.parser budget g s pos = some step := by
    filter_upwards [eventually_ge_atTop n] with budget hbudget
    exact (Parser.run_plain (d.parser budget g) s pos).symm.trans (hstep budget hbudget)
  have hsame {budget : Nat} (hrun : d.parser budget g s pos = some step) {v : α} {next : Nat} {w : Option Furthest}
      (h : d.parser budget g s pos = some (.success v next w)) : step = .success v next w :=
    Option.some.inj (hrun.symm.trans h)
  cases step with
  | success v next w =>
    filter_upwards [hrun, hP v next w ⟨n, hstep⟩] with budget hrun hbehind
    refine ⟨⟨_, hrun⟩, fun v' next' w' h => ?_⟩
    cases hsame hrun h
    exact hbehind
  | fail q w =>
    filter_upwards [hrun] with budget hrun
    exact ⟨⟨_, hrun⟩, fun v next w h => nomatch hsame hrun h⟩
  | error e =>
    filter_upwards [hrun] with budget hrun
    exact ⟨⟨_, hrun⟩, fun v next w h => nomatch hsame hrun h⟩

theorem eventually_returnsFrom (hd : d.Within (.library ι)) {g : Grammar ι Γ α} (hg : g.Within (.library ι))
    (hhere : d.Returns g s pos) (hlater : ∀ q, pos < q → q ≤ s.length → d.Returns g s q) :
    ∀ᶠ budget in atTop, ReturnsFrom (d.parser budget g) s pos := by
  have hall : ∀ᶠ budget in atTop, ∀ q ∈ Finset.Icc pos s.length, Back (d.parser budget g) s q := by
    refine (eventually_all_finset _).2 fun q hq => ?_
    obtain ⟨hle, hlength⟩ := Finset.mem_Icc.1 hq
    rcases Nat.eq_or_lt_of_le hle with rfl | hlt
    · exact hhere
    · exact hlater q hlt hlength
  filter_upwards [hall] with budget hback q hle hlength
  obtain ⟨step, hrun⟩ := hback q (Finset.mem_Icc.2 ⟨hle, hlength⟩)
  exact ⟨step, hrun, goesOn_grammar hd hg budget q hlength step hrun⟩

theorem eventually_seqFrom (hd : d.Within (.library ι)) {n : Nat} {parts : Fin n → Grammar ι Γ α}
    (hparts : ∀ i, (parts i).Within (.library ι)) (hpos : pos ≤ s.length)
    (hhere : ∀ i, (∀ j < i, ¬(parts j).Consumes) → d.Returns (parts i) s pos)
    (hlater : ∀ i q, pos < q → q ≤ s.length → d.Returns (parts i) s q) :
    ∀ᶠ budget in atTop, ∀ values seen,
      ∃ step, Parser.seqFrom s (List.ofFn fun i => d.parser budget (parts i)) values pos seen = some step := by
  induction n generalizing pos with
  | zero => exact .of_forall fun budget values seen => ⟨_, rfl⟩
  | succ n ih =>
    have hbehind : ∀ᶠ budget in atTop, Back (d.parser budget (parts 0)) s pos ∧
        ∀ v next w, d.parser budget (parts 0) s pos = some (.success v next w) → ∀ values seen,
          ∃ step, Parser.seqFrom s (List.ofFn fun i : Fin n => d.parser budget (parts i.succ)) values next seen
            = some step := by
      refine eventually_behind (hhere 0 fun j hj => absurd hj (Fin.not_lt_zero j)) fun v next w hstep => ?_
      obtain ⟨k, hrun⟩ := hstep
      have hadvances := advances_of_runAt hd (hparts 0) hpos (hrun k (Nat.le_refl k))
      refine ih (fun i => hparts i.succ) hadvances.2 (fun i hbefore => ?_)
        fun i q hq => hlater i.succ q (Nat.lt_of_le_of_lt hadvances.1 hq)
      refine returns_behind hd (hparts 0) hpos (fun hfirst => hhere i.succ fun j hj => ?_) (hlater i.succ) ⟨k, hrun⟩
      cases j using Fin.cases with
      | zero => exact hfirst
      | succ j => exact hbefore j (Fin.succ_lt_succ_iff.1 hj)
    filter_upwards [hbehind] with budget hbudget values seen
    rw [List.ofFn_succ]
    refine hbudget.1.bind fun step hstep => ?_
    cases step with
    | success v next w => exact hbudget.2 v next w hstep _ _
    | fail q w => exact ⟨_, rfl⟩
    | error e => exact ⟨_, rfl⟩

theorem returns_of_exposed (hd : d.Within (.library ι)) (hpos : pos ≤ s.length)
    (hlater : ∀ q, pos < q → q ≤ s.length → d.AllReturn s q) {g : Grammar ι Γ α} (hg : g.Within (.library ι))
    (hroutine : g.NoRoutine) (hexposed : ∀ slot, g.Exposes slot → d.Returns (.ref slot) s pos) : d.Returns g s pos := by
  induction g with
  | leaf l => exact .of_forall fun budget => ⟨_, Grammar.parser_leaf l budget _ s pos⟩
  | ref slot => exact hexposed slot rfl
  | map f g ih => exact (ih hg hroutine hexposed).mono fun budget h => h.map f
  | bind g f ihg ihf =>
    have hbehind := eventually_behind (ihg hg.1 hroutine.1 fun slot h => hexposed slot (.inl h))
      fun v next w hstep => returns_behind hd hg.1 hpos (fun hnot => ihf v (hg.2 v) (hroutine.2 v) fun slot h =>
        hexposed slot (.inr ⟨hnot, v, h⟩)) (fun q hlt hle => hlater q hlt hle (f v) (hg.2 v) (hroutine.2 v)) hstep
    exact hbehind.mono fun budget h => h.1.andThen h.2
  | thenCombine f g h ihg ihh =>
    have hbehind := eventually_behind (ihg hg.1 hroutine.1 fun slot h => hexposed slot (.inl h))
      fun v next w hstep => returns_behind hd hg.1 hpos (fun hnot => ihh hg.2 hroutine.2 fun slot h =>
        hexposed slot (.inr ⟨hnot, h⟩)) (fun q hlt hle => hlater q hlt hle h hg.2 hroutine.2) hstep
    exact hbehind.mono fun budget hbudget => hbudget.1.thenCombine f hbudget.2
  | row n parts ih =>
    refine (eventually_seqFrom hd hg hpos (fun i hbefore => ih i (hg i) (hroutine i) fun slot h =>
      hexposed slot ⟨i, h, hbefore⟩) fun i q hlt hle => hlater q hlt hle (parts i) (hg i) (hroutine i)).mono
      fun budget h => h #[] none
  | choice n branches ih =>
    have hall : ∀ᶠ budget in atTop, ∀ i, Back (d.parser budget (branches i)) s pos :=
      eventually_all.2 fun i => ih i (hg i) (hroutine i) fun slot h => hexposed slot ⟨i, h⟩
    refine hall.mono fun budget hback => exists_altFrom (fun p hp => ?_) pos none
    obtain ⟨i, rfl⟩ := List.mem_ofFn.1 hp
    exact hback i
  | desc description g ih => exact (ih hg.2 hroutine hexposed).mono fun budget h => h.desc description
  | mark g ih => exact (ih hg.2 hroutine hexposed).mono fun budget h => h.mark
  | peek g ih => exact (ih hg hroutine hexposed).mono fun budget h => h.peek
  | shouldFail description g ih => exact (ih hg.2 hroutine hexposed).mono fun budget h => h.shouldFail description
  | debug label inspect g ih => exact (ih hg hroutine hexposed).mono fun budget h => h.debug label inspect
  | times b g ih =>
    have hitem := eventually_returnsFrom (g := g) hd hg (ih hg hroutine hexposed)
      fun q hlt hle => hlater q hlt hle g hg hroutine
    filter_upwards [hitem, eventually_gt_atTop (s.length - pos)] with budget hback hbudget
    exact exists_times hpos hback hbudget
  | repeatUntil b keep g stop ihg ihs =>
    have hitem := eventually_returnsFrom hd hg.2.1 (ihg hg.2.1 hroutine.1 fun slot h => hexposed slot (.inl h))
      fun q hlt hle => hlater q hlt hle g hg.2.1 hroutine.1
    have hstop := eventually_returnsFrom hd hg.2.2 (ihs hg.2.2 hroutine.2 fun slot h => hexposed slot (.inr h))
      fun q hlt hle => hlater q hlt hle stop hg.2.2 hroutine.2
    filter_upwards [hitem, hstop, eventually_gt_atTop (s.length - pos)] with budget hback hhalt hbudget
    exact exists_repeatUntil hpos hback (fun q hq hle => (hhalt q hq hle).imp fun _ => And.left) hbudget
  | routine first turn asked rest iha ihr => exact hroutine.elim

theorem returns_ref {rank : Nat → Nat} (hd : d.Within (.library ι)) (hrank : d.RankedBy rank) (hpos : pos ≤ s.length)
    (hlater : ∀ q, pos < q → q ≤ s.length → d.AllReturn s q) (slot : Nat) : d.Returns (.ref slot) s pos := by
  induction hk : rank slot using Nat.strong_induction_on generalizing slot with
  | _ k ih =>
    cases hbody : d.body? slot with
    | none => exact .of_forall fun budget => ⟨_, Declarations.call_of_none hbody budget⟩
    | some g =>
      obtain ⟨hroutine, hlower⟩ := hrank slot g hbody
      have hreturns : d.Returns g s pos := returns_of_exposed hd hpos hlater (hd slot g hbody) hroutine
        fun j hj => ih (rank j) (hk ▸ hlower j hj) j rfl
      -- The reference itself uses up one of the budget.
      obtain ⟨n, hn⟩ := eventually_atTop.1 hreturns
      refine eventually_atTop.2 ⟨n + 1, fun budget hbudget => ?_⟩
      obtain ⟨m, rfl⟩ : ∃ m, budget = m + 1 := ⟨budget - 1, by omega⟩
      obtain ⟨step, hrun⟩ := back_run.2 (hn m (by omega))
      exact ⟨step, (Declarations.call_succ hbody m).trans hrun⟩

theorem allReturn_of_ranked {rank : Nat → Nat} (hd : d.Within (.library ι)) (hrank : d.RankedBy rank)
    (hpos : pos ≤ s.length) : d.AllReturn s pos := by
  induction hk : s.length - pos using Nat.strong_induction_on generalizing pos with
  | _ k ih =>
    have hlater (q : Nat) (hlt : pos < q) (hle : q ≤ s.length) : d.AllReturn s q := ih _ (by omega) hle rfl
    intro α g hg hroutine
    exact returns_of_exposed hd hpos hlater hg hroutine fun slot _ => returns_ref hd hrank hpos hlater slot

/-- **Grammars without left recursion come back.** When the ranks of declarations fall from each to those that it
exposes, each declaration, and each grammar without routines that refers to them, comes to a step from every offset of
every stream. -/
theorem ranked_grammars_come_back {rank : Nat → Nat} (hd : d.Within (.library ι)) (hrank : d.RankedBy rank)
    (hpos : pos ≤ s.length) :
    (∀ slot, ∃ step, d.ComesTo (.ref slot) s pos step) ∧
    ∀ {α : Type} (g : Grammar ι Γ α), g.Within (.library ι) → g.NoRoutine → ∃ step, d.ComesTo g s pos step :=
  ⟨fun slot => exists_comesTo_iff.2 (allReturn_of_ranked hd hrank hpos (.ref slot) trivial trivial),
    fun g hg hroutine => exists_comesTo_iff.2 (allReturn_of_ranked hd hrank hpos g hg hroutine)⟩

end Grammars

/-! ## Nested brackets -/

theorem Declarations.brackets_within {F : Fragment Char} (hF : ∀ items d, F.leaf (.literal items d)) :
    Declarations.brackets.Within F := by
  intro slot g hg
  match slot with
  | 0 =>
    obtain rfl := Option.some.inj hg
    exact ⟨⟨hF _ _, trivial⟩, hF _ _⟩
  | 1 =>
    obtain rfl := Option.some.inj hg
    exact Grammar.within_or.2 ⟨trivial, hF _ _⟩
  | n + 2 => cases hg

/-- An item exposes a list, which is of a lower rank; a list exposes nothing. -/
theorem Declarations.brackets_rankedBy : Declarations.brackets.RankedBy id := by
  intro slot g hg
  match slot with
  | 0 =>
    obtain rfl := Option.some.inj hg
    refine ⟨⟨⟨trivial, trivial⟩, trivial⟩, fun k hk => ?_⟩
    have hbracket : "[".toList ≠ [] := by decide
    rcases hk with (hopen | ⟨hnot, -⟩) | ⟨hnot, -⟩
    · exact hopen.elim
    · exact absurd hbracket hnot
    · exact absurd (.inl hbracket) hnot
  | 1 =>
    obtain rfl := Option.some.inj hg
    refine ⟨Grammar.noRoutine_or.2 ⟨trivial, trivial⟩, fun k hk => ?_⟩
    rcases Grammar.exposes_or.1 hk with hlist | hletter
    · obtain rfl : 0 = k := hlist
      exact Nat.zero_lt_one
    · exact hletter.elim
  | n + 2 => cases hg

theorem ranked_grammars_come_back_brackets :
    Declarations.brackets.Within (.library Char) ∧ Declarations.brackets.RankedBy id ∧
    0 ≤ (Stream.ofString "[x[]]").length ∧
    ∃ step, Declarations.brackets.ComesTo (.ref 0) (Stream.ofString "[x[]]") 0 step := by
  have hd : Declarations.brackets.Within (.library Char) := Declarations.brackets_within fun _ _ => trivial
  exact ⟨hd, Declarations.brackets_rankedBy, Nat.zero_le _,
    (ranked_grammars_come_back hd Declarations.brackets_rankedBy (Nat.zero_le _)).1 0⟩

end Descent
