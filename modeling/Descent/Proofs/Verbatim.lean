import Descent.Proofs.Collection
import Descent.Proofs.Passage

/-!
# Parsers that copy what they read

The values of a grammar are spelled by a function `spell` in the items of the stream: a character is itself, a list of
values what its members are one after another. `g.Verbatim spelling spell` says, by the constructors of `g`, that its
values are spelled as the items that it reads: leaves return these items, `map` changes nothing about the spelling, and
values that are joined are spelled one after another. Where a repetition leaves its terminator unread, the terminator may
be any grammar.

What such a grammar succeeds with is spelled as the items between the start and the end of the run (`verbatim_of_runAt`).
-/

namespace Descent

variable {ι : Type} [Item ι] {Γ : Nat → Type} {α β γ : Type}

/-! ## Leaves -/

/-- Whether a matcher reports the whole match as its first group. -/
def Matcher.ReportsWhole (m : Matcher ι) : Prop :=
  ∀ s pos r, m.find s pos = some r → r.groups[0]? = some (some (pos, r.stop))

/-- Leaves whose values are spelled as the items that they read. -/
def Leaf.Copies : {α : Type} → Leaf ι α → (α → List ι) → Prop
  | _, .succeed v, spell => spell v = []
  | _, .fail _, _ => True
  | _, .satisfies _ _, spell => ∀ a, spell a = [a]
  | _, .literal _ _, spell => ∀ as, spell as = as
  | _, .upTo _ _ _, spell => ∀ as, spell as = as
  | _, .exactly _ _ _, spell => ∀ as, spell as = as
  | _, .span _ _, spell => ∀ as, spell as = as
  | _, .pattern m groups, spell => m.ReportsWhole ∧ groups.head? = some 0 ∧ ∀ vs, spell vs = vs.headD []
  | _, _, _ => False

/-- Whether a parser comes back, from each boundary, with values that are spelled as the items that it passes over. -/
def CopiesOf (spell : α → List ι) (p : Parser Option ι α) (s : Stream ι) : Prop :=
  ∀ pos, s.isBoundary pos = true → Gives p s pos fun v next => s.Passes pos (spell v) next

theorem meets_leaf [DecidableEq ι] {l : Leaf ι α} {spell : α → List ι} (hl : l.Copies spell) {s : Stream ι} {pos : Nat}
    (hpos : s.isBoundary pos = true) : (l.step s pos).Meets fun v next => s.Passes pos (spell v) next := by
  cases l with
  | succeed v =>
    show s.Passes pos (spell v) pos
    rw [show spell v = [] from hl]
    exact .here hpos
  | fail d => trivial
  | satisfies accepts d =>
    rw [Leaf.step]
    split
    next a next hitem =>
      split_ifs
      · show s.Passes pos (spell a) next
        rw [hl a]
        exact Stream.passes_itemAt hitem
      · trivial
    next => trivial
  | literal items d =>
    rw [Leaf.step]
    split_ifs with h
    · show s.Passes pos (spell items) (pos + Stream.extent items)
      rw [hl items]
      exact Stream.passes_hasAt h
    · trivial
  | upTo count accepts d =>
    rw [Leaf.step]
    split_ifs
    · show s.Passes pos (spell (s.takeAt count pos)) (pos + Stream.extent (s.takeAt count pos))
      rw [hl]
      exact Stream.passes_takeAt hpos count
    · trivial
  | exactly count accepts d =>
    rw [Leaf.step]
    split_ifs
    · show s.Passes pos (spell (s.takeAt count pos)) (pos + Stream.extent (s.takeAt count pos))
      rw [hl]
      exact Stream.passes_takeAt hpos count
    · trivial
  | span accepts d =>
    rw [Leaf.step]
    split_ifs
    · trivial
    · show s.Passes pos (spell (s.between pos (s.spanEnd accepts s.length pos))) (s.spanEnd accepts s.length pos)
      rw [hl]
      exact Stream.passes_between hpos (Stream.ahead_spanEnd hpos accepts s.length)
  | pattern m groups =>
    obtain ⟨hwhole, hgroups, hspell⟩ := hl
    rw [Leaf.step]
    split
    next r hfind =>
      obtain ⟨rest, rfl⟩ : ∃ rest, groups = 0 :: rest := List.head?_eq_some_iff.1 hgroups
      have hcovered : s.covered r 0 = s.between pos r.stop := by
        rw [Stream.covered, hwhole s pos r hfind]
      have hahead := Stream.Ahead.of_boundary (m.find_stop hfind).1 (m.find_stop hfind).2
      show s.Passes pos (spell ((0 :: rest).map (s.covered r))) r.stop
      rw [hspell, List.map_cons, List.headD_cons, hcovered]
      exact Stream.passes_between hpos hahead
    next => trivial
  | _ => exact hl.elim

/-! ## Parsers -/

section Parsers

variable {spell : α → List ι} {spell' : β → List ι} {spell'' : γ → List ι} {p : Parser Option ι α}
  {q : Parser Option ι β} {s : Stream ι}

/-- What values are spelled as that are collected in a list. -/
def spellAll (spell : α → List ι) (vs : List α) : List ι := vs.flatMap spell

theorem CopiesOf.map {f : α → β} (hf : ∀ v, spell' (f v) = spell v) (hp : CopiesOf spell p s) :
    CopiesOf spell' (Parser.map f p) s := by
  intro pos hpos
  refine Gives.map f ((hp pos hpos).mono fun v next h => ?_)
  rw [hf]
  exact h

theorem CopiesOf.thenCombine {f : α → β → γ} (hf : ∀ v u, spell'' (f v u) = spell v ++ spell' u)
    (hp : CopiesOf spell p s) (hq : CopiesOf spell' q s) : CopiesOf spell'' (Parser.thenCombine f p q) s := by
  intro pos hpos
  refine Gives.thenCombine f ((hp pos hpos).mono fun v next h => ?_)
  refine (hq next h.boundary).mono fun u stop h' => ?_
  rw [hf]
  exact h.trans h'

theorem CopiesOf.desc (d : String) (hp : CopiesOf spell p s) : CopiesOf spell (Parser.desc d p) s :=
  fun pos hpos => (hp pos hpos).desc d

theorem CopiesOf.alt {ps : List (Parser Option ι α)} (hps : ∀ p ∈ ps, CopiesOf spell p s) :
    CopiesOf spell (Parser.alt ps) s :=
  fun pos hpos => gives_altFrom (fun p hp => hps p hp pos hpos) pos none

theorem CopiesOf.push (hp : CopiesOf spell p s) {start pos : Nat} {vs : List α}
    (h : s.Passes start (spellAll spell vs) pos) :
    Gives p s pos fun v next => s.Passes start (spellAll spell (vs ++ [v])) next := by
  refine (hp pos h.boundary).mono fun v next h' => ?_
  have hboth := h.trans h'
  rwa [show spellAll spell (vs ++ [v]) = spellAll spell vs ++ spell v by simp [spellAll]]

theorem CopiesOf.seq {ps : List (Parser Option ι α)} (hps : ∀ p ∈ ps, CopiesOf spell p s) :
    CopiesOf (spellAll spell) (Parser.seq ps) s := by
  intro pos hpos
  have hparts : ∀ p ∈ ps, ∀ vs q, s.Passes pos (spellAll spell vs) q →
      Gives p s q fun v next => s.Passes pos (spellAll spell (vs ++ [v])) next :=
    fun p hp vs q h => (hps p hp).push h
  have hstart : s.Passes pos (spellAll spell (#[] : Array α).toList) pos := .here hpos
  exact gives_seqFrom hparts hstart none

theorem CopiesOf.times (budget : Nat) (b : Bounds) (hp : CopiesOf spell p s) :
    CopiesOf (spellAll spell) (Parser.times budget b p) s := by
  intro pos hpos
  refine (Gives.times (I := fun vs q => s.Passes pos (spellAll spell vs) q) budget (fun vs q h _ => hp.push h)
    (.here hpos)).mono fun vs next h => ?_
  exact h.1

theorem CopiesOf.manyUntil (budget : Nat) (b : Bounds) (hp : CopiesOf spell p s) (stop : Parser Option ι β) :
    CopiesOf (spellAll spell) (Parser.repeatUntil budget b (fun _ => none) p stop) s := by
  intro pos hpos
  refine Gives.repeatUntil (I := fun vs q => s.Passes pos (spellAll spell vs) q) budget (fun vs q h _ => ?_)
    (fun vs q h _ => hp.push h) (.here hpos)
  exact (gives_true stop s q).mono fun u next _ => ⟨nofun, fun _ => h⟩

theorem CopiesOf.manyUntilConsume (budget : Nat) (b : Bounds) (hp : CopiesOf spell p s) {stop : Parser Option ι α}
    (hstop : CopiesOf spell stop s) : CopiesOf (spellAll spell) (Parser.repeatUntil budget b some p stop) s := by
  intro pos hpos
  refine Gives.repeatUntil (I := fun vs q => s.Passes pos (spellAll spell vs) q) budget (fun vs q h _ => ?_)
    (fun vs q h _ => hp.push h) (.here hpos)
  refine (hstop.push h).mono fun u next h' => ⟨fun v hv => ?_, nofun⟩
  obtain rfl := Option.some.inj hv
  exact h'

end Parsers

/-! ## Grammars -/

/-- Whether the values of a grammar are spelled as the items that it reads, where those of some declarations are: these,
and how they are spelled, are in `spelling`. -/
inductive Grammar.Verbatim (spelling : (slot : Nat) → (Γ slot → List ι) → Prop) :
    {α : Type} → (α → List ι) → Grammar ι Γ α → Prop
  | leaf {α : Type} {spell : α → List ι} {l : Leaf ι α} (hl : l.Copies spell) : Verbatim spelling spell (.leaf l)
  | ref {slot : Nat} {spell : Γ slot → List ι} (hslot : spelling slot spell) : Verbatim spelling spell (.ref slot)
  | map {α β : Type} {spell : α → List ι} {spell' : β → List ι} {f : α → β} {g : Grammar ι Γ α}
      (hf : ∀ v, spell' (f v) = spell v) (hg : Verbatim spelling spell g) : Verbatim spelling spell' (.map f g)
  | thenCombine {α β γ : Type} {spell : α → List ι} {spell' : β → List ι} {spell'' : γ → List ι} {f : α → β → γ}
      {g : Grammar ι Γ α} {h : Grammar ι Γ β} (hf : ∀ v u, spell'' (f v u) = spell v ++ spell' u)
      (hg : Verbatim spelling spell g) (hh : Verbatim spelling spell' h) :
      Verbatim spelling spell'' (.thenCombine f g h)
  | row {α : Type} {spell : α → List ι} {n : Nat} {parts : Fin n → Grammar ι Γ α}
      (hparts : ∀ i, Verbatim spelling spell (parts i)) : Verbatim spelling (spellAll spell) (.row n parts)
  | choice {α : Type} {spell : α → List ι} {n : Nat} {branches : Fin n → Grammar ι Γ α}
      (hbranches : ∀ i, Verbatim spelling spell (branches i)) : Verbatim spelling spell (.choice n branches)
  | desc {α : Type} {spell : α → List ι} {g : Grammar ι Γ α} (d : String) (hg : Verbatim spelling spell g) :
      Verbatim spelling spell (.desc d g)
  | times {α : Type} {spell : α → List ι} {g : Grammar ι Γ α} (b : Bounds) (hg : Verbatim spelling spell g) :
      Verbatim spelling (spellAll spell) (.times b g)
  | manyUntil {α β : Type} {spell : α → List ι} {g : Grammar ι Γ α} (b : Bounds) (hg : Verbatim spelling spell g)
      (stop : Grammar ι Γ β) : Verbatim spelling (spellAll spell) (.manyUntilBounded b g stop)
  | manyUntilConsume {α : Type} {spell : α → List ι} {g stop : Grammar ι Γ α} (b : Bounds)
      (hg : Verbatim spelling spell g) (hstop : Verbatim spelling spell stop) :
      Verbatim spelling (spellAll spell) (.manyUntilConsume b g stop)

/-- Whether the declarations that are in `spelling` have been resolved to grammars whose values are spelled as the items
that they read. -/
def Declarations.Verbatim (d : Declarations ι Γ) (spelling : (slot : Nat) → (Γ slot → List ι) → Prop) : Prop :=
  ∀ slot spell g, spelling slot spell → d.body? slot = some g → g.Verbatim spelling spell

section Runs

variable [DecidableEq ι] {spelling : (slot : Nat) → (Γ slot → List ι) → Prop} {s : Stream ι}

theorem copies_grammar {refs : (slot : Nat) → Parser Option ι (Γ slot)}
    (hrefs : ∀ slot spell, spelling slot spell → CopiesOf spell (refs slot) s) (budget : Nat)
    {spell : α → List ι} {g : Grammar ι Γ α} (hg : g.Verbatim spelling spell) :
    CopiesOf spell (g.parser budget refs) s := by
  induction hg with
  | leaf hl =>
    intro pos hpos step hrun
    rw [Grammar.parser_leaf] at hrun
    obtain rfl := Option.some.inj hrun
    exact meets_leaf hl hpos
  | ref hslot => exact hrefs _ _ hslot
  | map hf _ ih => exact ih.map hf
  | thenCombine hf _ _ ihg ihh => exact ihg.thenCombine hf ihh
  | row _ ih =>
    refine CopiesOf.seq fun p hp => ?_
    obtain ⟨i, rfl⟩ := List.mem_ofFn.1 hp
    exact ih i
  | choice _ ih =>
    refine CopiesOf.alt fun p hp => ?_
    obtain ⟨i, rfl⟩ := List.mem_ofFn.1 hp
    exact ih i
  | desc d _ ih => exact ih.desc d
  | times b _ ih => exact ih.times budget b
  | manyUntil b _ stop ih => exact ih.manyUntil budget b _
  | manyUntilConsume b _ _ ihg ihs => exact ihg.manyUntilConsume budget b ihs

variable {d : Declarations ι Γ}

theorem copies_call (hd : d.Verbatim spelling) (budget slot : Nat) {spell : Γ slot → List ι}
    (hslot : spelling slot spell) : CopiesOf spell (d.call budget slot) s := by
  induction budget generalizing slot with
  | zero =>
    intro pos hpos step hrun
    cases hbody : d.body? slot with
    | none =>
      rw [Declarations.call_of_none hbody] at hrun
      obtain rfl := Option.some.inj hrun
      trivial
    | some g =>
      rw [Declarations.call_zero hbody] at hrun
      cases hrun
  | succ n ih =>
    intro pos hpos step hrun
    cases hbody : d.body? slot with
    | none =>
      rw [Declarations.call_of_none hbody] at hrun
      obtain rfl := Option.some.inj hrun
      trivial
    | some g =>
      rw [Declarations.call_succ hbody, Parser.run_plain] at hrun
      have hrefs : ∀ slot spell, spelling slot spell → CopiesOf spell (d.call n slot) s :=
        fun slot spell hslot => ih slot hslot
      exact copies_grammar hrefs n (hd slot spell g hslot hbody) pos hpos step hrun

theorem copies_verbatim (hd : d.Verbatim spelling) {spell : α → List ι} {g : Grammar ι Γ α} (hg : g.Verbatim spelling spell)
    (budget : Nat) : CopiesOf spell (d.parser budget g) s :=
  copies_grammar (fun slot _ hslot => copies_call hd budget slot hslot) budget hg

theorem verbatim_of_runAt (hd : d.Verbatim spelling) {spell : α → List ι} {g : Grammar ι Γ α}
    (hg : g.Verbatim spelling spell) {budget pos next : Nat} {v : α} {w : Option Furthest}
    (hpos : s.isBoundary pos = true) (hrun : d.runAt budget g s pos = some (.success v next w)) :
    s.Passes pos (spell v) next := by
  rw [Declarations.runAt, Parser.run_plain] at hrun
  exact copies_verbatim hd hg budget pos hpos _ hrun

end Runs

end Descent
