import Descent.Grammar.Text
import Descent.Proofs.Progress
import Descent.Proofs.Rows

/-!
# Repetitions split

A repetition is one loop over its mandatory items and those that may follow. It can be split where the mandatory ones
end: exactly so many items, and then a repetition of the rest, come to the same steps, with the same witnesses
(`parser_times_split`). Exactly so many items are a row of copies (`parser_times_exactly`). Neither depends on what the
item does, be it that it stands still, fails late or is in error.

Behind the mandatory items the loop may begin anew, with the values and the witness of before put aside:
`timesFrom_rest`.
-/

namespace Descent

variable {ι : Type} [Item ι] {Γ : Nat → Type} {α β : Type}

/-! ## The least number, and the rest -/

namespace Bounds

/-- The bounds of what may follow the least number of items. -/
def rest (b : Bounds) : Bounds := ⟨0, b.max.map (· - b.min)⟩

theorem rest_rangeIncl (min max : Nat) : (rangeIncl min max).rest = rangeIncl 0 (max - min) := rfl

theorem rest_atLeast (n : Nat) : (atLeast n).rest = any := rfl

variable {b : Bounds} {k pos next : Nat}

theorem room_rest : b.rest.Room k ↔ b.Room (b.min + k) := by
  constructor
  · intro hroom max hmax
    have hless : k < max - b.min := hroom (max - b.min) (Option.mem_map_of_mem (· - b.min) hmax)
    omega
  · intro hroom most hmost
    obtain ⟨max, hmax, rfl⟩ := Option.map_eq_some_iff.1 hmost
    have := hroom max hmax
    omega

theorem stalls_rest : Parser.stalls b.rest k pos next = Parser.stalls b (b.min + k) pos next := by
  simp [Parser.stalls, rest]

theorem room_exactly {n count : Nat} : (exactly n).Room count ↔ count < n := by
  constructor
  · intro hroom
    exact hroom n rfl
  · intro hless max hmax
    obtain rfl := Option.some.inj hmax
    exact hless

theorem not_stalls_of_lt {count : Nat} (hmin : count < b.min) : Parser.stalls b count pos next = false := by
  rw [← Bool.not_eq_true]
  intro hstall
  have := le_of_stalls hstall
  omega

theorem stalls_exactly {n count : Nat} : Parser.stalls (exactly n) count pos next = false := by
  simp [Parser.stalls, exactly]

end Bounds

namespace Parser

variable {b : Bounds} {p : Parser Option ι α} {s : Stream ι}

theorem timesFrom_exactly {n k : Nat} {values : Array α} (hsize : values.size + k = n) (pos : Nat)
    (seen : Option Furthest) :
    timesFrom (.exactly n) p s k values pos seen = seqFrom s (List.replicate k p) values pos seen := by
  induction k generalizing values pos seen with
  | zero =>
    have hmin : ¬values.size < n := by omega
    rw [timesFrom, timesEnd]
    simp [Bounds.exactly, hmin, seqFrom]
  | succ k ih =>
    have hless : values.size < n := by omega
    have hpush (v : α) : (values.push v).size + k = n := by
      rw [Array.size_push]
      omega
    rw [timesFrom, List.replicate_succ, seqFrom, run_plain]
    cases p s pos with
    | none => rfl
    | some step =>
      cases step with
      | success v next w =>
        show (if stalls (.exactly n) values.size pos next then _ else _) = seqFrom s _ _ _ (Furthest.merge w seen)
        rw [Bounds.stalls_exactly, if_neg Bool.false_ne_true, ih (hpush v), Furthest.merge_comm]
      | fail q w =>
        show (if values.size < (Bounds.exactly n).min then _ else _) = _
        rw [if_pos (show values.size < (Bounds.exactly n).min from hless)]
        rfl
      | error e => rfl

theorem timesEnd_of_le {values : Array α} (hmin : b.min ≤ values.size) (pos : Nat) (seen : Option Furthest) :
    (timesEnd b values pos seen : Option (Step (List α))) = some (.success values.toList pos seen) :=
  if_neg (Nat.not_lt.2 hmin)

section Rest

variable {before : Array α} (hbefore : before.size = b.min) (earlier : Option Furthest)

include hbefore

theorem timesEnd_rest (values : Array α) (pos : Nat) (seen : Option Furthest) :
    timesEnd b (before ++ values) pos (Furthest.merge seen earlier)
      = (timesEnd b.rest values pos seen : Option (Step (List α))).map fun step =>
          (step.map (before.toList ++ ·)).aggregate earlier := by
  have henough : b.min ≤ (before ++ values).size := by
    rw [Array.size_append]
    omega
  have henough' : b.rest.min ≤ values.size := Nat.zero_le values.size
  rw [timesEnd_of_le henough, timesEnd_of_le henough', Array.toList_append]
  rfl

/-- Behind the mandatory items `before` a repetition begins anew, with its values behind theirs and its witness added
to the one of before. -/
theorem timesFrom_rest (allowance : Nat) (values : Array α) (pos : Nat) (seen : Option Furthest) :
    timesFrom b p s allowance (before ++ values) pos (Furthest.merge seen earlier)
      = (timesFrom b.rest p s allowance values pos seen : Option (Step (List α))).map fun step =>
          (step.map (before.toList ++ ·)).aggregate earlier := by
  have hsize (values : Array α) : (before ++ values).size = b.min + values.size := by
    rw [Array.size_append, hbefore]
  have hwitness (seen w : Option Furthest) :
      Furthest.merge (Furthest.merge seen earlier) w = Furthest.merge (Furthest.merge seen w) earlier := by
    rw [Furthest.merge_assoc, Furthest.merge_comm earlier w, ← Furthest.merge_assoc]
  induction allowance generalizing values pos seen with
  | zero =>
    have hnone : b.rest.max.isNone = b.max.isNone := by simp [Bounds.rest]
    rw [timesFrom, timesFrom, hnone]
    cases b.max.isNone with
    | true => rfl
    | false => exact timesEnd_rest hbefore earlier values pos seen
  | succ k ih =>
    rw [timesFrom, timesFrom, run_plain]
    cases p s pos with
    | none => rfl
    | some step =>
      cases step with
      | success v next w =>
        have hstall : stalls b (before ++ values).size pos next = stalls b.rest values.size pos next := by
          rw [hsize, Bounds.stalls_rest]
        simp only [Option.bind_eq_bind, Option.bind_some]
        rw [hstall, hwitness, ← Array.append_push]
        cases hstalls : stalls b.rest values.size pos next with
        | true => rfl
        | false => exact ih (values.push v) next (Furthest.merge seen w)
      | fail q w =>
        have henough : ¬(before ++ values).size < b.min := by
          rw [hsize]
          omega
        have henough' : ¬values.size < b.rest.min := Nat.not_lt_zero values.size
        simp only [Option.bind_eq_bind, Option.bind_some]
        rw [if_neg henough, if_neg henough', hwitness]
        exact timesEnd_rest hbefore earlier values pos (Furthest.merge seen (some w))
      | error e => rfl

end Rest

theorem timesFrom_split {k : Nat} {values : Array α} (hsize : values.size + k = b.min) (more : Nat) (pos : Nat)
    (seen : Option Furthest) :
    timesFrom b p s (k + more) values pos seen
      = (timesFrom (.exactly b.min) p s k values pos seen : Option (Step (List α))).bind fun step =>
          step.followedBy fun vs next =>
            (timesFrom b.rest p s more #[] next none : Option (Step (List α))).map (Step.map (vs ++ ·)) := by
  induction k generalizing values pos seen with
  | zero =>
    have henough : values.size = b.min := hsize
    have hall : (timesFrom (.exactly b.min) p s 0 values pos seen : Option (Step (List α)))
        = some (.success values.toList pos seen) := by
      rw [timesFrom]
      exact timesEnd_of_le (Nat.le_of_eq henough.symm) pos seen
    have hrest := timesFrom_rest (p := p) (s := s) henough seen more #[] pos none
    rw [Array.append_empty, Furthest.merge_none_left] at hrest
    rw [hall, Nat.zero_add, hrest, Option.bind_some]
    show _ = Option.map _ (Option.map _ _)
    rw [Option.map_map]
    rfl
  | succ k ih =>
    have hless : values.size < b.min := by omega
    have hpush (v : α) : (values.push v).size + k = b.min := by
      rw [Array.size_push]
      omega
    rw [Nat.succ_add, timesFrom, timesFrom, run_plain]
    cases p s pos with
    | none => rfl
    | some step =>
      cases step with
      | success v next w =>
        simp only [Option.bind_eq_bind, Option.bind_some]
        rw [Bounds.not_stalls_of_lt hless, Bounds.stalls_exactly, if_neg Bool.false_ne_true, if_neg Bool.false_ne_true]
        exact ih (hpush v) next (Furthest.merge seen w)
      | fail q w =>
        have hless' : values.size < (Bounds.exactly b.min).min := hless
        simp only [Option.bind_eq_bind, Option.bind_some]
        rw [if_pos hless, if_pos hless']
        rfl
      | error e => rfl

end Parser

/-! ## Grammars -/

section Grammars

variable [DecidableEq ι] {budget : Nat} {refs : (slot : Nat) → Parser Option ι (Γ slot)} {b : Bounds}
  {g : Grammar ι Γ α}

theorem parser_times_exactly (n : Nat) :
    (Grammar.times (.exactly n) g).parser budget refs = (Grammar.seq (List.replicate n g)).parser budget refs := by
  funext s pos
  rw [Grammar.parser_seq, List.map_replicate]
  show Parser.timesFrom (.exactly n) (g.parser budget refs) s n #[] pos none = Parser.seqFrom s _ #[] pos none
  exact Parser.timesFrom_exactly (by simp) pos none

theorem parser_times_split (hbounds : ∀ max ∈ b.max, b.min ≤ max) :
    (Grammar.times b g).parser budget refs
      = (Grammar.append (.times (.exactly b.min) g) (.times b.rest g)).parser budget refs := by
  have hallow : b.allowance budget = b.min + b.rest.allowance budget := by
    cases hmax : b.max with
    | none => simp [Bounds.allowance, Bounds.rest, hmax]
    | some max =>
      have := hbounds max hmax
      simp only [Bounds.allowance, Bounds.rest, hmax, Option.map_some, Option.getD_some]
      omega
  funext s pos
  refine Eq.trans ?_ (Parser.thenCombine_plain _ _ _ s pos).symm
  show Parser.timesFrom b (g.parser budget refs) s (b.allowance budget) #[] pos none = _
  rw [hallow]
  exact Parser.timesFrom_split (by simp) _ pos none

theorem times_ends {s : Stream ι} {pos next : Nat} {vs : List α} {w : Option Furthest}
    (hrun : (Grammar.times b g).parser budget refs s pos = some (.success vs next w)) :
    b.Admits vs.length ∧
      ((∀ max ∈ b.max, vs.length < max) → ∃ q w', g.parser budget refs s next = some (.fail q w')) := by
  obtain ⟨r, hrepeats, hreply⟩ := Parser.repeats_of_timesFrom (b.within_allowance budget) hrun
  simp only [List.nil_append, Reply.map_id, Step.reply_success] at hreply
  subst hreply
  obtain ⟨-, hadmits, hend⟩ := chained_of_repeats hrepeats fun max _ => Nat.zero_le max
  rw [Array.size_empty, Nat.zero_add] at hadmits hend
  refine ⟨hadmits, fun hroom => ?_⟩
  rcases hend with hfull | hmiss
  · exact absurd hroom hfull
  · exact Parser.replies_miss.1 hmiss

theorem many_not_fail {s : Stream ι} {pos q : Nat} {w : Furthest} :
    (Grammar.many g).parser budget refs s pos ≠ some (.fail q w) := by
  intro hrun
  obtain ⟨r, hrepeats, hreply⟩ := Parser.repeats_of_timesFrom (Bounds.any.within_allowance budget) hrun
  simp only [List.nil_append, Reply.map_id, Step.reply_fail] at hreply
  subst hreply
  exact absurd hrepeats.lt_of_miss (Nat.not_lt_zero _)

end Grammars

/-- **Bounded repetition splits exactly.** As whole steps, exactly so many items are a row of copies; items within a range
are its least number of them and as many more as there is room for; and at least so many are exactly so many and then any
number. A success has a number of items that the bounds admit, and where they would have let it go on the item fails.
Any number of items never fails. -/
theorem bounded_repetition_splits [DecidableEq ι] (budget : Nat) (refs : (slot : Nat) → Parser Option ι (Γ slot))
    (g : Grammar ι Γ α) :
    (∀ n, (Grammar.times (.exactly n) g).parser budget refs = (Grammar.seq (List.replicate n g)).parser budget refs) ∧
    (∀ min max, min ≤ max →
      (Grammar.times (.rangeIncl min max) g).parser budget refs
        = (Grammar.append (.times (.exactly min) g) (.times (.rangeIncl 0 (max - min)) g)).parser budget refs) ∧
    (∀ n, (Grammar.atLeast n g).parser budget refs
      = (Grammar.append (.times (.exactly n) g) (.many g)).parser budget refs) ∧
    (∀ b s pos vs next w, (Grammar.times b g).parser budget refs s pos = some (.success vs next w) →
      b.Admits vs.length ∧
        ((∀ max ∈ b.max, vs.length < max) → ∃ q w', g.parser budget refs s next = some (.fail q w'))) ∧
    ∀ s pos q w, (Grammar.many g).parser budget refs s pos ≠ some (.fail q w) := by
  refine ⟨parser_times_exactly, fun min max hle => ?_, fun n => ?_, fun b s pos vs next w => times_ends,
    fun s pos q w => many_not_fail⟩
  · rw [← Bounds.rest_rangeIncl]
    refine parser_times_split fun most hmost => ?_
    obtain rfl := Option.some.inj hmost
    exact hle
  · rw [Grammar.many, ← Bounds.rest_atLeast n]
    exact parser_times_split nofun

def Grammar.anA : Grammar Char (fun _ => String) String := literal "a"

open Grammar in
/-- Between one and three letters of two, split behind the first one. -/
theorem bounded_repetition_splits_letters :
    (times (.rangeIncl 1 3) anA).parser 1 (fun _ _ _ => none) (.ofString "aab") 0
      = (append (times (.exactly 1) anA) (times (.rangeIncl 0 2) anA)).parser 1 (fun _ _ _ => none) (.ofString "aab") 0 ∧
    (append (times (.exactly 1) anA) (times (.rangeIncl 0 2) anA)).parser 1 (fun _ _ _ => none) (.ofString "aab") 0
      = some (.success ["a", "a"] 2 (some ⟨2, .single "a"⟩)) ∧
    ∃ q w, anA.parser 1 (fun _ _ _ => none) (.ofString "aab") 2 = some (.fail q w) := by
  have hletters := bounded_repetition_splits 1 (fun _ _ _ => none) anA
  have hsplit := congrFun (congrFun (hletters.2.1 1 3 (by decide)) (.ofString "aab")) 0
  have hrun : (times (.rangeIncl 1 3) anA).parser 1 (fun _ _ _ => none) (.ofString "aab") 0
      = some (.success ["a", "a"] 2 (some ⟨2, .single "a"⟩)) := by decide
  have hends := (hletters.2.2.2.1 _ _ _ _ _ _ hrun).2 fun max hmax => by
    obtain rfl := Option.some.inj hmax
    decide
  exact ⟨hsplit, hsplit.symm.trans hrun, hends⟩

end Descent
