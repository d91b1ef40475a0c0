import Descent.Proofs.Counts
import Descent.Proofs.Repetition

/-!
# Rows of items

What a repetition gives a value for is a row of its items (`Chained`) that stops where there is no room for another one or
where the next one is missed (`chained_of_repeats`, `Chained.repeats`). It misses only where items are missing
(`Repeats.lt_of_miss`), is in error only when its item is or when it stands still (`Repeats.not_error`), and it does reply
when its item replies and moves on (`exists_repeats`).
-/

namespace Descent

variable {α : Type}

/-- Items one after another, the last of which ends at `next`. -/
inductive Chained (item : Nat → Reply α → Prop) : (pos : Nat) → List α → (next : Nat) → Prop
  | nil {pos : Nat} : Chained item pos [] pos
  | cons {pos mid next : Nat} {v : α} {vs : List α} (hitem : item pos (.value v mid)) (hlater : Chained item mid vs next) :
      Chained item pos (v :: vs) next

section Rows

variable {item : Nat → Reply α → Prop} {b : Bounds} {count pos next : Nat} {v : α} {vs : List α} {r : Reply (List α)}

/-- Whether a repetition never stands still on its item: there is a greatest number, or the item moves. -/
def KeepsMoving (b : Bounds) (item : Nat → Reply α → Prop) : Prop :=
  b.max = none → ∀ q v r, item q (.value v r) → q < r

theorem KeepsMoving.not_stalls (h : KeepsMoving b item) (hitem : item pos (.value v next)) :
    Parser.stalls b count pos next = false := by
  cases hmax : b.max with
  | some max => simp [Parser.stalls, hmax]
  | none =>
    have hless := h hmax pos v next hitem
    have hne : (next == pos) = false := by simpa using Nat.ne_of_gt hless
    simp [Parser.stalls, hne]

theorem closing_eq_value {q : Nat} (h : Reply.value vs q = b.closing count pos) : b.min ≤ count ∧ vs = [] ∧ q = pos := by
  by_cases hmin : count < b.min
  · rw [Bounds.closing_of_lt hmin] at h
    cases h
  · rw [Bounds.closing_of_le (Nat.not_lt.1 hmin)] at h
    cases h
    exact ⟨Nat.not_lt.1 hmin, rfl, rfl⟩

theorem chained_of_repeats {q : Nat} (h : Repeats item b count pos (.value vs q)) (hcount : ∀ max ∈ b.max, count ≤ max) :
    Chained item pos vs q ∧ b.Admits (count + vs.length) ∧ (¬b.Room (count + vs.length) ∨ item q .miss) := by
  generalize hr : Reply.value vs q = r at h
  induction h generalizing vs with
  | full hfull =>
    obtain ⟨hmin, rfl, rfl⟩ := closing_eq_value hr
    exact ⟨.nil, ⟨hmin, hcount⟩, .inl hfull⟩
  | missed hroom hmiss =>
    obtain ⟨hmin, rfl, rfl⟩ := closing_eq_value hr
    exact ⟨.nil, ⟨hmin, hcount⟩, .inr hmiss⟩
  | @turn count pos mid v r hroom hitem hmoves _ ih =>
    cases r with
    | value ws q' =>
      cases hr
      obtain ⟨hrow, hadmits, hend⟩ := ih (fun max hmax => hroom max hmax) rfl
      rw [Nat.add_assoc, Nat.add_comm 1] at hadmits hend
      exact ⟨.cons hitem hrow, hadmits, hend⟩
    | miss => cases hr
    | error e => cases hr
  | stuck hroom hitem hstall => cases hr
  | broken hroom hitem => cases hr

theorem Chained.repeats (hmoving : KeepsMoving b item) {q : Nat} (h : Chained item pos vs q)
    (hadmits : b.Admits (count + vs.length)) (hend : ¬b.Room (count + vs.length) ∨ item q .miss) :
    Repeats item b count pos (.value vs q) := by
  induction h generalizing count with
  | @nil pos =>
    rw [← Bounds.closing_of_le hadmits.1 pos]
    by_cases hroom : b.Room count
    · rcases hend with hfull | hmiss
      · exact absurd hroom hfull
      · exact .missed hroom hmiss
    · exact .full hroom
  | cons hitem _ ih =>
    have hroom : b.Room count := by
      intro max hmax
      have := hadmits.2 max hmax
      rw [List.length_cons] at this
      omega
    rw [List.length_cons, Nat.add_comm _ 1, ← Nat.add_assoc] at hadmits hend
    exact .turn hroom hitem (hmoving.not_stalls hitem) (ih hadmits hend)

theorem Repeats.not_error (hsafe : ∀ q e, ¬item q (.error e)) (hmoving : KeepsMoving b item) (e : DefinitionError) :
    ¬Repeats item b count pos (.error e) := by
  intro h
  generalize hr : Reply.error e = r at h
  induction h with
  | full hfull | missed hroom hmiss =>
    rw [Bounds.closing] at hr
    split at hr
    · cases hr
    · cases hr
  | @turn count pos mid v r hroom hitem hmoves _ ih =>
    cases r with
    | value ws q => cases hr
    | miss => cases hr
    | error e' => exact ih hr
  | stuck hroom hitem hstall =>
    rw [hmoving.not_stalls hitem] at hstall
    cases hstall
  | broken hroom hitem => exact hsafe _ _ hitem

/-! ## Repetitions reply -/

theorem exists_repeats_of_later (htotal : ∀ q, ∃ r, item q r)
    (hlater : b.Room count → ∀ v next, item pos (.value v next) → Parser.stalls b count pos next = false →
      ∃ r, Repeats item b (count + 1) next r) : ∃ r, Repeats item b count pos r := by
  by_cases hroom : b.Room count
  · obtain ⟨r, hr⟩ := htotal pos
    cases r with
    | value v next =>
      cases hstall : Parser.stalls b count pos next with
      | true => exact ⟨_, .stuck hroom hr hstall⟩
      | false =>
        obtain ⟨r, hrest⟩ := hlater hroom v next hr hstall
        exact ⟨_, .turn hroom hr hstall hrest⟩
    | miss => exact ⟨_, .missed hroom hr⟩
    | error e => exact ⟨_, .broken hroom hr⟩
  · exact ⟨_, .full hroom⟩

/-- Up to a greatest number there are only so many turns, and an item that moves on in the stream comes to its end. -/
theorem exists_repeats {limit : Nat} (htotal : ∀ q, ∃ r, item q r)
    (hahead : b.max = none → ∀ q v r, item q (.value v r) → q < r ∧ r ≤ limit) (count pos : Nat) :
    ∃ r, Repeats item b count pos r := by
  cases hmax : b.max with
  | some max =>
    induction hleft : max - count generalizing count pos with
    | zero =>
      refine exists_repeats_of_later htotal fun hroom => ?_
      have := hroom max hmax
      omega
    | succ k ih => exact exists_repeats_of_later htotal fun hroom v next hitem hmoves => ih (count + 1) next (by omega)
  | none =>
    induction hleft : limit - pos using Nat.strong_induction_on generalizing count pos with
    | _ k ih =>
      refine exists_repeats_of_later htotal fun hroom v next hitem hmoves => ?_
      obtain ⟨hless, hle⟩ := hahead hmax pos v next hitem
      exact ih (limit - next) (by omega) (count + 1) next rfl

theorem Repeats.lt_of_miss (h : Repeats item b count pos .miss) : count < b.min := by
  generalize hr : Reply.miss = r at h
  have hclosing {count pos : Nat} (hr : Reply.miss = (b.closing count pos : Reply (List α))) : count < b.min := by
    by_contra hmin
    rw [Bounds.closing_of_le (Nat.not_lt.1 hmin)] at hr
    cases hr
  induction h with
  | full hfull => exact hclosing hr
  | missed hroom hmiss => exact hclosing hr
  | @turn count pos mid v r hroom hitem hmoves _ ih =>
    cases r with
    | value ws q => cases hr
    | miss => exact Nat.lt_of_succ_lt (ih rfl)
    | error e => cases hr
  | stuck hroom hitem hstall => cases hr
  | broken hroom hitem => cases hr

end Rows

end Descent
