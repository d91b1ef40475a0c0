import Descent.Proofs.Replies

/-!
# Repetitions by rules

`Repeats` and `RepeatsUntil` give the replies of the two repetitions by rules, one for each way in which a turn can go,
from the replies of the item and of the terminator. There is no budget in them and there are no witnesses, so they are
the form in which to compare repetitions with grammars that are put together otherwise. A repetition replies what the
rules say: `Declarations.replies_times`, `Declarations.replies_repeatUntil`.
-/

namespace Descent

variable {ι : Type} [Item ι] {Γ : Nat → Type} {α β : Type}

/-! ## Room for more -/

namespace Bounds

variable {b : Bounds} {count allowance : Nat}

/-- Whether the bounds let a repetition with this many items try for one more. -/
def Room (b : Bounds) (count : Nat) : Prop := ∀ max ∈ b.max, count < max

/-- Whether a repetition with this many items may run its item just so often more as there is room, if there is a greatest
number. -/
def Within (b : Bounds) (count allowance : Nat) : Prop := ∀ max ∈ b.max, count + allowance = max

theorem within_allowance (b : Bounds) (budget : Nat) : b.Within 0 (b.allowance budget) := by
  intro max hmax
  have hsome : b.max = some max := hmax
  simp [allowance, hsome]

theorem Within.room (h : b.Within count (allowance + 1)) : b.Room count := by
  intro max hmax
  have := h max hmax
  omega

theorem Within.next (h : b.Within count (allowance + 1)) : b.Within (count + 1) allowance := by
  intro max hmax
  have := h max hmax
  omega

theorem Within.full (h : b.Within count 0) (hmax : b.max ≠ none) : ¬b.Room count := by
  intro hroom
  obtain ⟨max, hsome⟩ := Option.ne_none_iff_exists'.1 hmax
  have hless := hroom max hsome
  have hequal := h max hsome
  omega

theorem Within.eq_zero (h : b.Within count allowance) (hfull : ¬b.Room count) : b.max ≠ none ∧ allowance = 0 := by
  constructor
  · intro hnone
    exact hfull (by simp [Room, hnone])
  · cases allowance with
    | zero => rfl
    | succ k => exact absurd h.room hfull

/-- Whether a repetition with this many items may run its item often enough: up to the greatest number, or where there is
none at least `turns` times. -/
def Suffices (b : Bounds) (count turns allowance : Nat) : Prop :=
  b.Within count allowance ∧ (b.max = none → turns ≤ allowance)

theorem suffices_allowance (b : Bounds) {turns budget : Nat} (h : turns ≤ budget) :
    b.Suffices 0 turns (b.allowance budget) := by
  refine ⟨b.within_allowance budget, fun hmax => ?_⟩
  rw [allowance, hmax, Option.getD_none]
  omega

theorem Suffices.mono {turns turns' : Nat} (h : b.Suffices count turns allowance) (hle : turns' ≤ turns) :
    b.Suffices count turns' allowance :=
  ⟨h.1, fun hmax => Nat.le_trans hle (h.2 hmax)⟩

theorem Suffices.turn {turns : Nat} (h : b.Suffices count (turns + 1) allowance) (hroom : b.Room count) :
    ∃ k, allowance = k + 1 ∧ b.Suffices (count + 1) turns k := by
  obtain ⟨hwithin, hturns⟩ := h
  cases allowance with
  | zero =>
    by_cases hmax : b.max = none
    · exact absurd (hturns hmax) (Nat.not_succ_le_zero turns)
    · exact absurd hroom (hwithin.full hmax)
  | succ k => exact ⟨k, rfl, hwithin.next, fun hmax => Nat.le_of_succ_le_succ (hturns hmax)⟩

theorem filter_eq_none_iff_room : b.max.filter (· ≤ count) = none ↔ b.Room count := by
  rw [Option.filter_eq_none_iff]
  simp only [decide_eq_true_eq, Nat.not_le]
  exact Iff.rfl

/-- What a repetition replies that takes no more than these many items. -/
def closing (b : Bounds) (count pos : Nat) : Reply (List α) := if count < b.min then .miss else .value [] pos

theorem closing_of_lt (h : count < b.min) (pos : Nat) : b.closing count pos = (.miss : Reply (List α)) := if_pos h

theorem closing_of_le (h : b.min ≤ count) (pos : Nat) : b.closing count pos = (.value [] pos : Reply (List α)) :=
  if_neg (Nat.not_lt.2 h)

end Bounds

/-! ## Rules -/

/-- The replies of a repetition with `count` items from an offset, where `item` are those of its item. A value lists the
items that are still to come. -/
inductive Repeats (item : Nat → Reply α → Prop) (b : Bounds) : (count pos : Nat) → Reply (List α) → Prop
  | full {count pos : Nat} (hfull : ¬b.Room count) : Repeats item b count pos (b.closing count pos)
  | missed {count pos : Nat} (hroom : b.Room count) (hitem : item pos .miss) :
      Repeats item b count pos (b.closing count pos)
  | turn {count pos next : Nat} {v : α} {r : Reply (List α)} (hroom : b.Room count) (hitem : item pos (.value v next))
      (hmoves : Parser.stalls b count pos next = false) (hlater : Repeats item b (count + 1) next r) :
      Repeats item b count pos (r.map (v :: ·))
  | stuck {count pos next : Nat} {v : α} (hroom : b.Room count) (hitem : item pos (.value v next))
      (hstall : Parser.stalls b count pos next = true) : Repeats item b count pos (.error (.emptyLoop pos))
  | broken {count pos : Nat} {e : DefinitionError} (hroom : b.Room count) (hitem : item pos (.error e)) :
      Repeats item b count pos (.error e)

/-- What a terminator leads to that succeeded at `pos` and ended at `next`. -/
def untilEnd (keep : β → Option α) (pos : Nat) (u : β) (next : Nat) : Reply (List α) :=
  match keep u with
  | some v => .value [v] next
  | none => .value [] pos

/-- Whether a repetition up to a terminator goes on with an item: the terminator is missed, or it is too early for it. -/
def PassesBy (halt : Nat → Reply β → Prop) (b : Bounds) (count pos : Nat) : Prop :=
  halt pos .miss ∨ count < b.min ∧ ∃ u next, halt pos (.value u next)

/-- The replies of a repetition up to a terminator with `count` items from an offset, where `item` are those of its item
and `halt` those of the terminator. -/
inductive RepeatsUntil (item : Nat → Reply α → Prop) (halt : Nat → Reply β → Prop) (b : Bounds) (keep : β → Option α) :
    (count pos : Nat) → Reply (List α) → Prop
  | halted {count pos next : Nat} {u : β} (hmin : b.min ≤ count) (hhalt : halt pos (.value u next)) :
      RepeatsUntil item halt b keep count pos (untilEnd keep pos u next)
  | haltBroken {count pos : Nat} {e : DefinitionError} (hhalt : halt pos (.error e)) :
      RepeatsUntil item halt b keep count pos (.error e)
  | full {count pos : Nat} (hpass : PassesBy halt b count pos) (hfull : ¬b.Room count) :
      RepeatsUntil item halt b keep count pos .miss
  | missed {count pos : Nat} (hpass : PassesBy halt b count pos) (hroom : b.Room count) (hitem : item pos .miss) :
      RepeatsUntil item halt b keep count pos .miss
  | turn {count pos next : Nat} {v : α} {r : Reply (List α)} (hpass : PassesBy halt b count pos) (hroom : b.Room count)
      (hitem : item pos (.value v next)) (hmoves : Parser.stalls b count pos next = false)
      (hlater : RepeatsUntil item halt b keep (count + 1) next r) :
      RepeatsUntil item halt b keep count pos (r.map (v :: ·))
  | stuck {count pos next : Nat} {v : α} (hpass : PassesBy halt b count pos) (hroom : b.Room count)
      (hitem : item pos (.value v next)) (hstall : Parser.stalls b count pos next = true) :
      RepeatsUntil item halt b keep count pos (.error (.emptyLoop pos))
  | broken {count pos : Nat} {e : DefinitionError} (hpass : PassesBy halt b count pos) (hroom : b.Room count)
      (hitem : item pos (.error e)) : RepeatsUntil item halt b keep count pos (.error e)

/-! ### What is asked of the parts -/

theorem Repeats.mono {item item' : Nat → Reply α → Prop} {b : Bounds} {count pos : Nat} {r : Reply (List α)}
    (h : Repeats item b count pos r) (hitem : ∀ q r, item q r → item' q r) : Repeats item' b count pos r := by
  induction h with
  | full hfull => exact .full hfull
  | missed hroom hmiss => exact .missed hroom (hitem _ _ hmiss)
  | turn hroom hvalue hmoves _ ih => exact .turn hroom (hitem _ _ hvalue) hmoves ih
  | stuck hroom hvalue hstall => exact .stuck hroom (hitem _ _ hvalue) hstall
  | broken hroom herror => exact .broken hroom (hitem _ _ herror)

theorem PassesBy.mono {halt halt' : Nat → Reply β → Prop} {b : Bounds} {count pos : Nat} (h : PassesBy halt b count pos)
    (hhalt : ∀ q r, halt q r → halt' q r) : PassesBy halt' b count pos := by
  rcases h with hmiss | ⟨hmin, u, next, hvalue⟩
  · exact .inl (hhalt _ _ hmiss)
  · exact .inr ⟨hmin, u, next, hhalt _ _ hvalue⟩

theorem RepeatsUntil.mono {item item' : Nat → Reply α → Prop} {halt halt' : Nat → Reply β → Prop} {b : Bounds}
    {keep : β → Option α} {count pos : Nat} {r : Reply (List α)} (h : RepeatsUntil item halt b keep count pos r)
    (hitem : ∀ q r, item q r → item' q r) (hhalt : ∀ q r, halt q r → halt' q r) :
    RepeatsUntil item' halt' b keep count pos r := by
  induction h with
  | halted hmin hvalue => exact .halted hmin (hhalt _ _ hvalue)
  | haltBroken herror => exact .haltBroken (hhalt _ _ herror)
  | full hpass hfull => exact .full (hpass.mono hhalt) hfull
  | missed hpass hroom hmiss => exact .missed (hpass.mono hhalt) hroom (hitem _ _ hmiss)
  | turn hpass hroom hvalue hmoves _ ih => exact .turn (hpass.mono hhalt) hroom (hitem _ _ hvalue) hmoves ih
  | stuck hpass hroom hvalue hstall => exact .stuck (hpass.mono hhalt) hroom (hitem _ _ hvalue) hstall
  | broken hpass hroom herror => exact .broken (hpass.mono hhalt) hroom (hitem _ _ herror)

/-! ## Parsers keep the rules -/

section Sound

variable {b : Bounds} {p : Parser Option ι α} {stop : Parser Option ι β} {s : Stream ι} {values : Array α} {pos : Nat}
  {seen : Option Furthest} {step : Step (List α)}

theorem Reply.map_push (v : α) (r : Reply (List α)) :
    (r.map (v :: ·)).map (values.toList ++ ·) = r.map ((values.push v).toList ++ ·) := by
  rw [Reply.map_map]
  simp only [Array.toList_push, List.append_assoc, List.singleton_append]

theorem Parser.timesEnd_closing (b : Bounds) (values : Array α) (pos : Nat) (seen : Option Furthest) :
    ∃ step, (timesEnd b values pos seen : Option _) = some step ∧
      step.reply = (b.closing values.size pos).map (values.toList ++ ·) := by
  rw [timesEnd]
  by_cases hmin : values.size < b.min
  · rw [if_pos hmin, Bounds.closing_of_lt hmin]
    exact ⟨_, rfl, rfl⟩
  · rw [if_neg hmin, Bounds.closing_of_le (Nat.not_lt.1 hmin)]
    exact ⟨_, rfl, by simp⟩

theorem Parser.repeats_of_timesFrom {allowance : Nat} (hwithin : b.Within values.size allowance)
    (hrun : timesFrom b p s allowance values pos seen = some step) :
    ∃ r, Repeats (p.Replies s) b values.size pos r ∧ step.reply = r.map (values.toList ++ ·) := by
  induction allowance generalizing values pos seen with
  | zero =>
    rw [timesFrom] at hrun
    by_cases hmax : b.max.isNone
    · rw [if_pos hmax] at hrun
      cases hrun
    · rw [if_neg hmax] at hrun
      obtain ⟨step', hend, hreply⟩ := timesEnd_closing b values pos seen
      obtain rfl := Option.some.inj (hrun.symm.trans hend)
      exact ⟨_, .full (hwithin.full (by simpa using hmax)), hreply⟩
  | succ n ih =>
    rw [timesFrom, run_plain] at hrun
    obtain ⟨first, hfirst, hrun⟩ := Option.bind_eq_some_iff.1 hrun
    cases first with
    | success v next w =>
      have hitem : p.Replies s pos (.value v next) := ⟨_, hfirst, rfl⟩
      cases hstall : stalls b values.size pos next with
      | true =>
        simp only [hstall, if_true] at hrun
        obtain rfl := Option.some.inj hrun
        exact ⟨_, .stuck hwithin.room hitem hstall, rfl⟩
      | false =>
        simp only [hstall, Bool.false_eq_true, if_false] at hrun
        have hnext : b.Within (values.push v).size n := by
          rw [Array.size_push]
          exact hwithin.next
        obtain ⟨r, hr, hreply⟩ := ih hnext hrun
        rw [Array.size_push] at hr
        exact ⟨_, .turn hwithin.room hitem hstall hr, by rw [hreply, Reply.map_push]⟩
    | fail q w =>
      have hitem : p.Replies s pos .miss := ⟨_, hfirst, rfl⟩
      refine ⟨_, .missed hwithin.room hitem, ?_⟩
      by_cases hmin : values.size < b.min
      · simp only [hmin, if_true] at hrun
        obtain rfl := Option.some.inj hrun
        rw [Bounds.closing_of_lt hmin]
        rfl
      · simp only [hmin, if_false] at hrun
        obtain ⟨step', hend, hreply⟩ := timesEnd_closing b values pos (Furthest.merge seen (some w))
        obtain rfl := Option.some.inj (hrun.symm.trans hend)
        exact hreply
    | error e =>
      obtain rfl := Option.some.inj hrun
      exact ⟨_, .broken hwithin.room ⟨_, hfirst, rfl⟩, rfl⟩

section UpTo

variable {keep : β → Option α} {again : Option (Array α → Nat → Option Furthest → Option (Step (List α)))}
  {missed : Option Furthest}

theorem Parser.repeatsUntil_of_untilItem (hpass : PassesBy (stop.Replies s) b values.size pos)
    (hagain : ∀ go ∈ again, ∀ v next seen, go (values.push v) next seen = some step →
      ∃ r, RepeatsUntil (p.Replies s) (stop.Replies s) b keep (values.size + 1) next r ∧
        step.reply = r.map ((values.push v).toList ++ ·))
    (hrun : untilItem b p s again missed values pos seen = some step) :
    ∃ r, RepeatsUntil (p.Replies s) (stop.Replies s) b keep values.size pos r ∧
      step.reply = r.map (values.toList ++ ·) := by
  unfold untilItem at hrun
  cases hfilter : b.max.filter (· ≤ values.size) with
  | some max =>
    have hfull : ¬b.Room values.size := by
      intro hroom
      rw [Bounds.filter_eq_none_iff_room.2 hroom] at hfilter
      cases hfilter
    rw [hfilter] at hrun
    obtain rfl := Option.some.inj hrun
    exact ⟨.miss, .full hpass hfull, rfl⟩
  | none =>
    have hroom : b.Room values.size := Bounds.filter_eq_none_iff_room.1 hfilter
    rw [hfilter] at hrun
    cases again with
    | none => cases hrun
    | some go =>
      simp only [run_plain] at hrun
      obtain ⟨first, hfirst, hrun⟩ := Option.bind_eq_some_iff.1 hrun
      cases first with
      | success v next w =>
        have hitem : p.Replies s pos (.value v next) := ⟨_, hfirst, rfl⟩
        cases hstall : stalls b values.size pos next with
        | true =>
          simp only [hstall, if_true] at hrun
          obtain rfl := Option.some.inj hrun
          exact ⟨_, .stuck hpass hroom hitem hstall, rfl⟩
        | false =>
          simp only [hstall, Bool.false_eq_true, if_false] at hrun
          obtain ⟨r, hr, hreply⟩ := hagain go rfl v next _ hrun
          exact ⟨_, .turn hpass hroom hitem hstall hr, by rw [hreply, Reply.map_push]⟩
      | fail q w =>
        have hmiss : step.reply = .miss := by
          by_cases hmin : b.min ≤ values.size
          · simp only [hmin, if_true] at hrun
            rw [← Option.some.inj hrun]
            rfl
          · simp only [hmin, if_false] at hrun
            rw [← Option.some.inj hrun]
            rfl
        exact ⟨.miss, .missed hpass hroom ⟨_, hfirst, rfl⟩, hmiss⟩
      | error e =>
        obtain rfl := Option.some.inj hrun
        exact ⟨_, .broken hpass hroom ⟨_, hfirst, rfl⟩, rfl⟩

theorem Parser.repeatsUntil_of_untilTurn
    (hagain : ∀ go ∈ again, ∀ v next seen, go (values.push v) next seen = some step →
      ∃ r, RepeatsUntil (p.Replies s) (stop.Replies s) b keep (values.size + 1) next r ∧
        step.reply = r.map ((values.push v).toList ++ ·))
    (hrun : untilTurn b keep p stop s again values pos seen = some step) :
    ∃ r, RepeatsUntil (p.Replies s) (stop.Replies s) b keep values.size pos r ∧
      step.reply = r.map (values.toList ++ ·) := by
  rw [untilTurn, run_plain] at hrun
  obtain ⟨halt, hhalt, hrun⟩ := Option.bind_eq_some_iff.1 hrun
  cases halt with
  | success u next w =>
    have hvalue : stop.Replies s pos (.value u next) := ⟨_, hhalt, rfl⟩
    by_cases hmin : b.min ≤ values.size
    · simp only [hmin, if_true] at hrun
      refine ⟨_, .halted hmin hvalue, ?_⟩
      rw [untilEnd]
      cases hkeep : keep u with
      | some v =>
        rw [hkeep] at hrun
        rw [← Option.some.inj hrun]
        simp
      | none =>
        rw [hkeep] at hrun
        rw [← Option.some.inj hrun]
        simp
    · simp only [hmin, if_false] at hrun
      exact repeatsUntil_of_untilItem (.inr ⟨Nat.not_le.1 hmin, u, next, hvalue⟩) hagain hrun
  | fail q w => exact repeatsUntil_of_untilItem (.inl ⟨_, hhalt, rfl⟩) hagain hrun
  | error e =>
    obtain rfl := Option.some.inj hrun
    exact ⟨_, .haltBroken ⟨_, hhalt, rfl⟩, rfl⟩

/-- What follows an item in a repetition up to a terminator that may run its item so many times more. -/
def Parser.untilAgain (b : Bounds) (keep : β → Option α) (p : Parser Option ι α) (stop : Parser Option ι β)
    (s : Stream ι) : (allowance : Nat) → Option (Array α → Nat → Option Furthest → Option (Step (List α)))
  | 0 => none
  | n + 1 => some (untilFrom b keep p stop s n)

theorem Parser.untilFrom_eq_untilTurn (b : Bounds) (keep : β → Option α) (p : Parser Option ι α)
    (stop : Parser Option ι β) (s : Stream ι) (allowance : Nat) :
    untilFrom b keep p stop s allowance = untilTurn b keep p stop s (untilAgain b keep p stop s allowance) := by
  cases allowance <;> rfl

theorem Parser.repeatsUntil_of_untilFrom {allowance : Nat}
    (hrun : untilFrom b keep p stop s allowance values pos seen = some step) :
    ∃ r, RepeatsUntil (p.Replies s) (stop.Replies s) b keep values.size pos r ∧
      step.reply = r.map (values.toList ++ ·) := by
  induction allowance generalizing values pos seen with
  | zero => exact repeatsUntil_of_untilTurn (by simp) hrun
  | succ n ih =>
    refine repeatsUntil_of_untilTurn (fun go hgo v next seen hlater => ?_) hrun
    obtain rfl := Option.mem_some.1 hgo
    obtain ⟨r, hr, hreply⟩ := ih hlater
    rw [Array.size_push] at hr
    exact ⟨r, hr, hreply⟩

end UpTo

end Sound

/-! ## The rules are kept by grammars -/

namespace Declarations

variable [DecidableEq ι] {d : Declarations ι Γ} {g : Grammar ι Γ α} {stop : Grammar ι Γ β} {s : Stream ι} {b : Bounds}
  {count pos : Nat} {r : Reply (List α)}

/-- What the rules say is what a repetition comes back with whose budget is large enough: each use of a rule takes one of
the turns that are allowed. -/
theorem timesFrom_of_repeats (h : Repeats (d.Replies g s) b count pos r) :
    ∃ turns, ∀ n, turns ≤ n → ∀ allowance, b.Suffices count turns allowance →
      ∀ (values : Array α) (seen : Option Furthest), values.size = count →
        ∃ step, Parser.timesFrom b (d.parser n g) s allowance values pos seen = some step ∧
          step.reply = r.map (values.toList ++ ·) := by
  induction h with
  | full hfull =>
    refine ⟨0, fun n _ allowance hallow values seen hsize => ?_⟩
    subst hsize
    obtain ⟨hmax, rfl⟩ := hallow.1.eq_zero hfull
    rw [Parser.timesFrom, if_neg (by simpa using hmax)]
    exact Parser.timesEnd_closing b values _ seen
  | missed hroom hitem =>
    obtain ⟨turns, hturns⟩ := hitem.parser
    refine ⟨turns + 1, fun n hn allowance hallow values seen hsize => ?_⟩
    subst hsize
    obtain ⟨k, rfl, -⟩ := hallow.turn hroom
    obtain ⟨q, w, hfirst⟩ := Parser.replies_miss.1 (hturns n (by omega))
    simp only [Parser.timesFrom, Parser.run_plain, hfirst, Option.bind_eq_bind, Option.bind_some]
    by_cases hmin : values.size < b.min
    · rw [if_pos hmin, Bounds.closing_of_lt hmin]
      exact ⟨_, rfl, rfl⟩
    · rw [if_neg hmin]
      exact Parser.timesEnd_closing b values _ _
  | turn hroom hitem hmoves _ ih =>
    obtain ⟨turns, hturns⟩ := hitem.parser
    obtain ⟨later, hlater⟩ := ih
    refine ⟨max turns later + 1, fun n hn allowance hallow values seen hsize => ?_⟩
    subst hsize
    obtain ⟨k, rfl, hrest⟩ := hallow.turn hroom
    obtain ⟨w, hfirst⟩ := Parser.replies_value.1 (hturns n (by omega))
    simp only [Parser.timesFrom, Parser.run_plain, hfirst, Option.bind_eq_bind, Option.bind_some, hmoves,
      Bool.false_eq_true, if_false]
    obtain ⟨step, hstep, hreply⟩ := hlater n (by omega) k (hrest.mono (Nat.le_max_right turns later)) (values.push _)
      (Furthest.merge seen w) (Array.size_push ..)
    exact ⟨step, hstep, by rw [hreply, Reply.map_push]⟩
  | stuck hroom hitem hstall =>
    obtain ⟨turns, hturns⟩ := hitem.parser
    refine ⟨turns + 1, fun n hn allowance hallow values seen hsize => ?_⟩
    subst hsize
    obtain ⟨k, rfl, -⟩ := hallow.turn hroom
    obtain ⟨w, hfirst⟩ := Parser.replies_value.1 (hturns n (by omega))
    simp only [Parser.timesFrom, Parser.run_plain, hfirst, Option.bind_eq_bind, Option.bind_some, hstall, if_true]
    exact ⟨_, rfl, rfl⟩
  | broken hroom hitem =>
    obtain ⟨turns, hturns⟩ := hitem.parser
    refine ⟨turns + 1, fun n hn allowance hallow values seen hsize => ?_⟩
    subst hsize
    obtain ⟨k, rfl, -⟩ := hallow.turn hroom
    have hfirst := Parser.replies_error.1 (hturns n (by omega))
    simp only [Parser.timesFrom, Parser.run_plain, hfirst, Option.bind_eq_bind, Option.bind_some]
    exact ⟨_, rfl, rfl⟩

theorem replies_times : d.Replies (.times b g) s pos r ↔ Repeats (d.Replies g s) b 0 pos r := by
  have hparser (n : Nat) : d.parser n (.times b g) s pos
      = (Parser.timesFrom b (d.parser n g) s (b.allowance n) #[] pos Option.none : Option (Step (List α))) := rfl
  constructor
  · intro hr
    obtain ⟨n, hn⟩ := hr.parser
    obtain ⟨step, hstep, rfl⟩ := hn n (Nat.le_refl n)
    rw [hparser] at hstep
    obtain ⟨r, hrepeats, hreply⟩ := Parser.repeats_of_timesFrom (b.within_allowance n) hstep
    simp only [List.nil_append, Reply.map_id] at hreply
    rw [hreply]
    exact hrepeats.mono fun q r' hr' => replies_of_run hr'
  · intro hrepeats
    obtain ⟨turns, hturns⟩ := timesFrom_of_repeats hrepeats
    obtain ⟨step, hstep, hreply⟩ := hturns turns (Nat.le_refl turns) _ (b.suffices_allowance (Nat.le_refl turns)) #[]
      Option.none rfl
    simp only [List.nil_append, Reply.map_id] at hreply
    exact replies_of_run ⟨step, hstep, hreply⟩

theorem untilTurn_of_passesBy (keep : β → Option α) (h : PassesBy (d.Replies stop s) b count pos) :
    ∃ turns, ∀ n, turns ≤ n → ∀ (p : Parser Option ι α) again (values : Array α) (seen : Option Furthest),
      values.size = count →
        ∃ missed, Parser.untilTurn b keep p (d.parser n stop) s again values pos seen
          = Parser.untilItem b p s again missed values pos seen := by
  rcases h with hmiss | ⟨hmin, u, next, hvalue⟩
  · obtain ⟨turns, hturns⟩ := hmiss.parser
    refine ⟨turns, fun n hn p again values seen hsize => ?_⟩
    obtain ⟨q, w, hhalt⟩ := Parser.replies_miss.1 (hturns n hn)
    refine ⟨some w, ?_⟩
    simp only [Parser.untilTurn, Parser.run_plain, hhalt, Option.bind_eq_bind, Option.bind_some]
  · obtain ⟨turns, hturns⟩ := hvalue.parser
    refine ⟨turns, fun n hn p again values seen hsize => ?_⟩
    obtain ⟨w, hhalt⟩ := Parser.replies_value.1 (hturns n hn)
    have hearly : ¬b.min ≤ values.size := by omega
    refine ⟨Option.none, ?_⟩
    simp only [Parser.untilTurn, Parser.run_plain, hhalt, Option.bind_eq_bind, Option.bind_some, hearly, if_false]

theorem untilFrom_of_passesBy {r₁ : Reply α} (hpass : PassesBy (d.Replies stop s) b count pos) (hroom : b.Room count)
    (hitem : d.Replies g s pos r₁) (keep : β → Option α) :
    ∃ least, ∀ n, least ≤ n → ∀ turns allowance, b.Suffices count (turns + 1) allowance →
      ∀ (values : Array α) (seen : Option Furthest), values.size = count →
        ∃ k missed, b.Suffices (count + 1) turns k ∧ (d.parser n g).Replies s pos r₁ ∧
          Parser.untilFrom b keep (d.parser n g) (d.parser n stop) s allowance values pos seen
            = (d.parser n g s pos : Option (Step α)).bind fun step =>
                match step with
                | .success v next w =>
                  if Parser.stalls b count pos next then Parser.raises (.emptyLoop pos)
                  else Parser.untilFrom b keep (d.parser n g) (d.parser n stop) s k (values.push v) next
                    (Furthest.merge seen w)
                | .fail q w =>
                  if b.min ≤ count then some (.fail q ((w.absorb missed).absorb seen))
                  else Parser.fails (.of pos s!"at least {b.min} items; got {count} item(s)")
                | .error e => some (.error e) := by
  obtain ⟨least, hleast⟩ := untilTurn_of_passesBy keep hpass
  obtain ⟨least', hleast'⟩ := hitem.parser
  refine ⟨max least least', fun n hn turns allowance hallow values seen hsize => ?_⟩
  obtain ⟨k, rfl, hrest⟩ := hallow.turn hroom
  obtain ⟨missed, hturn⟩ := hleast n (by omega) (d.parser n g)
    (some (Parser.untilFrom b keep (d.parser n g) (d.parser n stop) s k)) values seen hsize
  subst hsize
  refine ⟨k, missed, hrest, hleast' n (by omega), ?_⟩
  rw [Parser.untilFrom, hturn]
  simp only [Parser.untilItem, Bounds.filter_eq_none_iff_room.2 hroom, Parser.run_plain]
  rfl

theorem untilFrom_of_repeatsUntil {keep : β → Option α}
    (h : RepeatsUntil (d.Replies g s) (d.Replies stop s) b keep count pos r) :
    ∃ turns, ∀ n, turns ≤ n → ∀ allowance, b.Suffices count turns allowance →
      ∀ (values : Array α) (seen : Option Furthest), values.size = count →
        ∃ step, Parser.untilFrom b keep (d.parser n g) (d.parser n stop) s allowance values pos seen = some step ∧
          step.reply = r.map (values.toList ++ ·) := by
  induction h with
  | @halted count pos next u hmin hhalt =>
    obtain ⟨turns, hturns⟩ := hhalt.parser
    refine ⟨turns, fun n hn allowance _ values seen hsize => ?_⟩
    subst hsize
    obtain ⟨w, hfirst⟩ := Parser.replies_value.1 (hturns n hn)
    simp only [Parser.untilFrom_eq_untilTurn, Parser.untilTurn, Parser.run_plain, hfirst, Option.bind_eq_bind,
      Option.bind_some, hmin, if_true, untilEnd]
    cases keep u with
    | some v => exact ⟨_, rfl, by simp⟩
    | none => exact ⟨_, rfl, by simp⟩
  | haltBroken hhalt =>
    obtain ⟨turns, hturns⟩ := hhalt.parser
    refine ⟨turns, fun n hn allowance _ values seen hsize => ?_⟩
    have hfirst := Parser.replies_error.1 (hturns n hn)
    simp only [Parser.untilFrom_eq_untilTurn, Parser.untilTurn, Parser.run_plain, hfirst, Option.bind_eq_bind,
      Option.bind_some]
    exact ⟨_, rfl, rfl⟩
  | full hpass hfull =>
    obtain ⟨turns, hturns⟩ := untilTurn_of_passesBy keep hpass
    refine ⟨turns, fun n hn allowance _ values seen hsize => ?_⟩
    obtain ⟨missed, hitem⟩ := hturns n hn (d.parser n g) (Parser.untilAgain b keep (d.parser n g) (d.parser n stop) s
      allowance) values seen hsize
    subst hsize
    obtain ⟨max, hmax⟩ := Option.ne_none_iff_exists'.1 fun hnone => hfull (Bounds.filter_eq_none_iff_room.1 hnone)
    rw [Parser.untilFrom_eq_untilTurn, hitem]
    simp only [Parser.untilItem, hmax]
    exact ⟨_, rfl, rfl⟩
  | missed hpass hroom hitem =>
    obtain ⟨turns, hturns⟩ := untilFrom_of_passesBy hpass hroom hitem keep
    refine ⟨turns + 1, fun n hn allowance hallow values seen hsize => ?_⟩
    obtain ⟨k, missed, -, hfirst, hrun⟩ := hturns n (by omega) turns allowance hallow values seen hsize
    obtain ⟨q, w, hfirst⟩ := Parser.replies_miss.1 hfirst
    rw [hrun, hfirst, Option.bind_some]
    simp only
    split <;> exact ⟨_, rfl, rfl⟩
  | @turn count pos next v r hpass hroom hitem hmoves _ ih =>
    obtain ⟨turns, hturns⟩ := untilFrom_of_passesBy hpass hroom hitem keep
    obtain ⟨later, hlater⟩ := ih
    refine ⟨max turns later + 1, fun n hn allowance hallow values seen hsize => ?_⟩
    obtain ⟨k, missed, hrest, hfirst, hrun⟩ := hturns n (by omega) (max turns later) allowance hallow values seen hsize
    obtain ⟨w, hfirst⟩ := Parser.replies_value.1 hfirst
    have hsize' : (values.push v).size = count + 1 := by rw [Array.size_push, hsize]
    obtain ⟨step, hstep, hreply⟩ := hlater n (by omega) k (hrest.mono (by omega)) (values.push v)
      (Furthest.merge seen w) hsize'
    refine ⟨step, ?_, by rw [hreply, Reply.map_push]⟩
    rw [hrun, hfirst, Option.bind_some]
    simp only [hmoves, Bool.false_eq_true, if_false]
    exact hstep
  | stuck hpass hroom hitem hstall =>
    obtain ⟨turns, hturns⟩ := untilFrom_of_passesBy hpass hroom hitem keep
    refine ⟨turns + 1, fun n hn allowance hallow values seen hsize => ?_⟩
    obtain ⟨k, missed, -, hfirst, hrun⟩ := hturns n (by omega) turns allowance hallow values seen hsize
    obtain ⟨w, hfirst⟩ := Parser.replies_value.1 hfirst
    rw [hrun, hfirst, Option.bind_some]
    simp only [hstall, if_true]
    exact ⟨_, rfl, rfl⟩
  | broken hpass hroom hitem =>
    obtain ⟨turns, hturns⟩ := untilFrom_of_passesBy hpass hroom hitem keep
    refine ⟨turns + 1, fun n hn allowance hallow values seen hsize => ?_⟩
    obtain ⟨k, missed, -, hfirst, hrun⟩ := hturns n (by omega) turns allowance hallow values seen hsize
    rw [hrun, Parser.replies_error.1 hfirst, Option.bind_some]
    exact ⟨_, rfl, rfl⟩

theorem replies_repeatUntil {keep : β → Option α} :
    d.Replies (.repeatUntil b keep g stop) s pos r
      ↔ RepeatsUntil (d.Replies g s) (d.Replies stop s) b keep 0 pos r := by
  have hparser (n : Nat) : d.parser n (.repeatUntil b keep g stop) s pos
      = (Parser.untilFrom b keep (d.parser n g) (d.parser n stop) s (b.allowance n) #[] pos Option.none :
          Option (Step (List α))) := rfl
  constructor
  · intro hr
    obtain ⟨n, hn⟩ := hr.parser
    obtain ⟨step, hstep, rfl⟩ := hn n (Nat.le_refl n)
    rw [hparser] at hstep
    obtain ⟨r, hrepeats, hreply⟩ := Parser.repeatsUntil_of_untilFrom hstep
    simp only [List.nil_append, Reply.map_id] at hreply
    rw [hreply]
    exact hrepeats.mono (fun q r' hr' => replies_of_run hr') fun q r' hr' => replies_of_run hr'
  · intro hrepeats
    obtain ⟨turns, hturns⟩ := untilFrom_of_repeatsUntil hrepeats
    obtain ⟨step, hstep, hreply⟩ := hturns turns (Nat.le_refl turns) _ (b.suffices_allowance (Nat.le_refl turns)) #[]
      Option.none rfl
    simp only [List.nil_append, Reply.map_id] at hreply
    exact replies_of_run ⟨step, hstep, hreply⟩

end Declarations

end Descent
