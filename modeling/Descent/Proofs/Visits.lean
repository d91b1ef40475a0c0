import Descent.Parse
import Mathlib.Logic.Relation

/-!
# Visits

A `Visit` is a run of a grammar, with a budget and from an offset. It is made of other visits: `Visit.parts` lists those
that it makes itself, in the order in which it makes them, and `Visit.Executes` reaches those that they make in turn.

Parts have smaller grammars or smaller budgets, so what holds of a visit whenever it holds of its parts holds of all
visits (`Visit.induct`).
-/

namespace Descent

/-- A grammar that is run from an offset. -/
structure Visit (ι : Type) [Item ι] (Γ : Nat → Type) where
  {α : Type}
  budget : Nat
  grammar : Grammar ι Γ α
  pos : Nat

variable {ι : Type} [Item ι] {Γ : Nat → Type} {α β ρ : Type} [DecidableEq ι]

/-! ## Parts of references and loops -/

namespace Declarations

def callParts (d : Declarations ι Γ) (slot pos : Nat) : (budget : Nat) → List (Visit ι Γ)
  | 0 => []
  | n + 1 =>
    match d.body? slot with
    | some g => [⟨n, g, pos⟩]
    | .none => []

variable (d : Declarations ι Γ) (s : Stream ι) (n : Nat)

/-- What a row visits: each part begins where the one before it succeeded. -/
def rowParts : List (Grammar ι Γ α) → Nat → List (Visit ι Γ)
  | [], _ => []
  | g :: gs, pos =>
    ⟨n, g, pos⟩ ::
      match (d.runAt n g s pos : Option (Step α)) with
      | some (.success _ next _) => rowParts gs next
      | _ => []

/-- What a choice visits: each branch follows one that failed. -/
def choiceParts (pos : Nat) : List (Grammar ι Γ α) → List (Visit ι Γ)
  | [] => []
  | g :: gs =>
    ⟨n, g, pos⟩ ::
      match (d.runAt n g s pos : Option (Step α)) with
      | some (.fail ..) => choiceParts pos gs
      | _ => []

/-- What a repetition visits that has `count` items. -/
def timesParts (b : Bounds) (g : Grammar ι Γ α) : (allowance : Nat) → (count pos : Nat) → List (Visit ι Γ)
  | 0, _, _ => []
  | k + 1, count, pos =>
    ⟨n, g, pos⟩ ::
      match (d.runAt n g s pos : Option (Step α)) with
      | some (.success _ next _) =>
        if Parser.stalls b count pos next then [] else timesParts b g k (count + 1) next
      | _ => []

/-- Whether it is the item's turn in a repetition up to a terminator, after a run of the terminator. -/
def itemFollows (b : Bounds) (count : Nat) : Option (Step β) → Bool
  | some (.success ..) => count < b.min && (b.max.filter (· ≤ count)).isNone
  | some (.fail ..) => (b.max.filter (· ≤ count)).isNone
  | _ => false

theorem itemFollows_of_le {b : Bounds} {count : Nat} (u : β) (next : Nat) (w : Option Furthest) (hmin : b.min ≤ count) :
    itemFollows b count (some (.success u next w)) = false := by
  simp [itemFollows, Nat.not_lt.2 hmin]

theorem itemFollows_of_lt {b : Bounds} {count : Nat} (u : β) (next : Nat) (w : Option Furthest) (hmin : count < b.min) :
    itemFollows b count (some (.success u next w)) = (b.max.filter (· ≤ count)).isNone := by
  simp [itemFollows, hmin]

/-- What a repetition up to a terminator visits that has `count` items: the terminator and the item by turns. -/
def untilParts (b : Bounds) (g : Grammar ι Γ α) (stop : Grammar ι Γ β) :
    (allowance : Nat) → (count pos : Nat) → List (Visit ι Γ)
  | 0, _, pos => [⟨n, stop, pos⟩]
  | k + 1, count, pos =>
    ⟨n, stop, pos⟩ ::
      if itemFollows b count (d.runAt n stop s pos : Option (Step β)) then
        ⟨n, g, pos⟩ ::
          match (d.runAt n g s pos : Option (Step α)) with
          | some (.success _ next _) =>
            if Parser.stalls b count pos next then [] else untilParts b g stop k (count + 1) next
          | _ => []
      else []

/-- What a routine visits in a number of turns. -/
def routineParts (turn : ρ → Option α → ρ × Move β) (asked : ρ → Option α → Grammar ι Γ α)
    (rest : ρ → Option α → Grammar ι Γ β) : (turns : Nat) → ρ → Option α → Nat → List (Visit ι Γ)
  | 0, _, _, _ => []
  | k + 1, state, last, pos =>
    match turn state last with
    | (state', .ask) =>
      ⟨n, asked state last, pos⟩ ::
        match (d.runAt n (asked state last) s pos : Option (Step α)) with
        | some (.success v next _) => routineParts turn asked rest k state' (some v) next
        | _ => []
    | (_, .answer _) => []
    | (_, .handOver) => [⟨n, rest state last, pos⟩]

end Declarations

/-! ## Parts -/

namespace Visit

variable (d : Declarations ι Γ) (s : Stream ι)

def step (v : Visit ι Γ) : Option (Step v.α) := d.runAt v.budget v.grammar s v.pos

def error? (v : Visit ι Γ) : Option DefinitionError := (v.step d s).bind Step.error?

def parts : Visit ι Γ → List (Visit ι Γ)
  | ⟨_, .leaf _, _⟩ => []
  | ⟨n, .ref slot, pos⟩ => d.callParts slot pos n
  | ⟨n, .map _ g, pos⟩ | ⟨n, .desc _ g, pos⟩ | ⟨n, .mark g, pos⟩ | ⟨n, .peek g, pos⟩ | ⟨n, .shouldFail _ g, pos⟩
  | ⟨n, .debug _ _ g, pos⟩ => [⟨n, g, pos⟩]
  | ⟨n, .bind g f, pos⟩ =>
    ⟨n, g, pos⟩ ::
      match (d.runAt n g s pos : Option (Step _)) with
      | some (.success v next _) => [⟨n, f v, next⟩]
      | _ => []
  | ⟨n, .thenCombine _ g h, pos⟩ =>
    ⟨n, g, pos⟩ ::
      match (d.runAt n g s pos : Option (Step _)) with
      | some (.success _ next _) => [⟨n, h, next⟩]
      | _ => []
  | ⟨n, .row _ gs, pos⟩ => d.rowParts s n (List.ofFn gs) pos
  | ⟨n, .choice _ gs, pos⟩ => d.choiceParts s n pos (List.ofFn gs)
  | ⟨n, .times b g, pos⟩ => d.timesParts s n b g (b.allowance n) 0 pos
  | ⟨n, .repeatUntil b _ g stop, pos⟩ => d.untilParts s n b g stop (b.allowance n) 0 pos
  | ⟨n, .routine first turn asked rest, pos⟩ => d.routineParts s n turn asked rest n first none pos

/-- Whether the second visit is made in the course of the first. -/
def Executes : Visit ι Γ → Visit ι Γ → Prop := Relation.ReflTransGen fun v u => u ∈ v.parts d s

end Visit

/-! ## Induction on visits -/

namespace Declarations

variable {d : Declarations ι Γ} {s : Stream ι} {n : Nat} {u : Visit ι Γ}

theorem mem_rowParts {gs : List (Grammar ι Γ α)} {pos : Nat} (h : u ∈ d.rowParts s n gs pos) :
    ∃ g ∈ gs, ∃ q, u = ⟨n, g, q⟩ := by
  induction gs generalizing pos with
  | nil => cases h
  | cons g gs ih =>
    rw [rowParts] at h
    rcases List.mem_cons.1 h with rfl | h
    · exact ⟨g, List.mem_cons_self .., pos, rfl⟩
    · split at h
      · obtain ⟨g', hg', hu⟩ := ih h
        exact ⟨g', List.mem_cons_of_mem _ hg', hu⟩
      · cases h

theorem mem_choiceParts {gs : List (Grammar ι Γ α)} {pos : Nat} (h : u ∈ d.choiceParts s n pos gs) :
    ∃ g ∈ gs, u = ⟨n, g, pos⟩ := by
  induction gs with
  | nil => cases h
  | cons g gs ih =>
    rw [choiceParts] at h
    rcases List.mem_cons.1 h with rfl | h
    · exact ⟨g, List.mem_cons_self .., rfl⟩
    · split at h
      · obtain ⟨g', hg', hu⟩ := ih h
        exact ⟨g', List.mem_cons_of_mem _ hg', hu⟩
      · cases h

theorem mem_timesParts {b : Bounds} {g : Grammar ι Γ α} {allowance count pos : Nat}
    (h : u ∈ d.timesParts s n b g allowance count pos) : ∃ q, u = ⟨n, g, q⟩ := by
  induction allowance generalizing count pos with
  | zero => cases h
  | succ k ih =>
    rw [timesParts] at h
    rcases List.mem_cons.1 h with rfl | h
    · exact ⟨pos, rfl⟩
    · split at h
      · split at h
        · cases h
        · exact ih h
      · cases h

theorem mem_untilParts {b : Bounds} {g : Grammar ι Γ α} {stop : Grammar ι Γ β} {allowance count pos : Nat}
    (h : u ∈ d.untilParts s n b g stop allowance count pos) : ∃ q, u = ⟨n, g, q⟩ ∨ u = ⟨n, stop, q⟩ := by
  induction allowance generalizing count pos with
  | zero => exact ⟨pos, .inr (List.mem_singleton.1 h)⟩
  | succ k ih =>
    rw [untilParts] at h
    rcases List.mem_cons.1 h with rfl | h
    · exact ⟨pos, .inr rfl⟩
    · split at h
      · rcases List.mem_cons.1 h with rfl | h
        · exact ⟨pos, .inl rfl⟩
        · split at h
          · split at h
            · cases h
            · exact ih h
          · cases h
      · cases h

theorem mem_routineParts {turn : ρ → Option α → ρ × Move β} {asked : ρ → Option α → Grammar ι Γ α}
    {rest : ρ → Option α → Grammar ι Γ β} {turns pos : Nat} {state : ρ} {last : Option α}
    (h : u ∈ d.routineParts s n turn asked rest turns state last pos) :
    ∃ state last q, u = ⟨n, asked state last, q⟩ ∨ u = ⟨n, rest state last, q⟩ := by
  induction turns generalizing state last pos with
  | zero => cases h
  | succ k ih =>
    rw [routineParts] at h
    split at h
    · rcases List.mem_cons.1 h with rfl | h
      · exact ⟨state, last, pos, .inl rfl⟩
      · split at h
        · exact ih h
        · cases h
    · cases h
    · exact ⟨state, last, pos, .inr (List.mem_singleton.1 h)⟩

end Declarations

namespace Visit

variable {d : Declarations ι Γ} {s : Stream ι} {P : Visit ι Γ → Prop}

/-- With one budget, it is enough to go through the visits that references make. -/
theorem induct_grammar (h : ∀ v, (∀ u ∈ v.parts d s, P u) → P v) {n : Nat}
    (hcall : ∀ slot pos, ∀ u ∈ (⟨n, .ref slot, pos⟩ : Visit ι Γ).parts d s, P u) (g : Grammar ι Γ α) (pos : Nat) :
    P ⟨n, g, pos⟩ := by
  induction g generalizing pos with
  | leaf l => exact h _ fun u hu => nomatch hu
  | ref slot => exact h _ (hcall slot pos)
  | map _ g ih | desc _ g ih | mark g ih | peek g ih | shouldFail _ g ih | debug _ _ g ih =>
    refine h _ fun u hu => ?_
    obtain rfl := List.mem_singleton.1 hu
    exact ih pos
  | bind g f ihg ihf =>
    refine h _ fun u hu => ?_
    rw [parts] at hu
    rcases List.mem_cons.1 hu with rfl | hu
    · exact ihg pos
    · split at hu
      · obtain rfl := List.mem_singleton.1 hu
        exact ihf _ _
      · cases hu
  | thenCombine _ g g' ihg ihg' =>
    refine h _ fun u hu => ?_
    rw [parts] at hu
    rcases List.mem_cons.1 hu with rfl | hu
    · exact ihg pos
    · split at hu
      · obtain rfl := List.mem_singleton.1 hu
        exact ihg' _
      · cases hu
  | row k gs ih =>
    refine h _ fun u hu => ?_
    obtain ⟨g, hg, q, rfl⟩ := Declarations.mem_rowParts hu
    obtain ⟨i, rfl⟩ := List.mem_ofFn.1 hg
    exact ih i q
  | choice k gs ih =>
    refine h _ fun u hu => ?_
    obtain ⟨g, hg, rfl⟩ := Declarations.mem_choiceParts hu
    obtain ⟨i, rfl⟩ := List.mem_ofFn.1 hg
    exact ih i pos
  | times b g ih =>
    refine h _ fun u hu => ?_
    obtain ⟨q, rfl⟩ := Declarations.mem_timesParts hu
    exact ih q
  | repeatUntil b keep g stop ihg ihs =>
    refine h _ fun u hu => ?_
    obtain ⟨q, rfl | rfl⟩ := Declarations.mem_untilParts hu
    · exact ihg q
    · exact ihs q
  | routine first turn asked rest iha ihr =>
    refine h _ fun u hu => ?_
    obtain ⟨state, last, q, rfl | rfl⟩ := Declarations.mem_routineParts hu
    · exact iha state last q
    · exact ihr state last q

theorem induct (h : ∀ v, (∀ u ∈ v.parts d s, P u) → P v) (v : Visit ι Γ) : P v := by
  obtain ⟨n, g, pos⟩ := v
  refine induct_grammar h (fun slot pos u hu => ?_) g pos
  -- a reference hands a smaller budget on to whatever grammar it stands for
  induction n generalizing slot pos u with
  | zero => cases hu
  | succ n ih =>
    rw [parts, Declarations.callParts] at hu
    split at hu
    · obtain rfl := List.mem_singleton.1 hu
      exact induct_grammar h ih _ pos
    · cases hu

end Visit

end Descent
