import Descent.Proofs.Splitting

/-!
# Up to a terminator, by lookahead

A repetition up to a terminator does in one loop what can be put together from plain repetitions and lookahead
(`Grammar.untilAhead`): first the least number of items, whatever the terminator makes of their offsets, and then items
at offsets where the terminator is missed, with the terminator behind the last of them. `until_looks_ahead` says that
the two have the same replies.

The loop has two phases. Below the least number of items it is a repetition of exactly that many (`RepeatsUntil.mandatory`),
provided that the terminator is never in error, and from there on it is a repetition of the rest (`RepeatsUntil.voluntary`).
-/

namespace Descent

variable {ι : Type} [Item ι] {Γ : Nat → Type} {α β : Type}

/-- The items of a repetition up to a terminator: the least number of them, and then as many as there is no terminator
before. -/
def Grammar.untilAhead (b : Bounds) (description : String) (g : Grammar ι Γ α) (stop : Grammar ι Γ β) :
    Grammar ι Γ (List α) :=
  append (times (.exactly b.min) g) (times b.rest (andThen (shouldFail description stop) g))

/-! ## Lists that are joined -/

section Joins

variable {first second third : Nat → Reply (List α) → Prop} {pos : Nat} {r : Reply (List α)}

def Appends (second : Nat → Reply (List α) → Prop) (vs : List α) (next : Nat) (r : Reply (List α)) : Prop :=
  ∃ r₁, second next r₁ ∧ r = r₁.map (vs ++ ·)

/-- The replies of one after another, with their items joined. -/
def Joins (first second : Nat → Reply (List α) → Prop) (pos : Nat) (r : Reply (List α)) : Prop :=
  ∃ r₁, first pos r₁ ∧ r₁.Leads (Appends second) r

theorem appends_nil : Appends second [] pos r ↔ second pos r := by
  simp only [Appends, List.nil_append, Reply.map_id]
  constructor
  · rintro ⟨r₁, h, rfl⟩
    exact h
  · intro h
    exact ⟨r, h, rfl⟩

theorem leads_appends_prefix {vs : List α} {r₁ : Reply (List α)} :
    (r₁.map (vs ++ ·)).Leads (Appends second) r
      ↔ ∃ r₂, r₁.Leads (Appends second) r₂ ∧ r = r₂.map (vs ++ ·) := by
  cases r₁ with
  | value ws next =>
    constructor
    · rintro ⟨r₃, h, rfl⟩
      exact ⟨_, ⟨r₃, h, rfl⟩, by simp⟩
    · rintro ⟨_, ⟨r₃, h, rfl⟩, rfl⟩
      exact ⟨r₃, h, by simp⟩
  | miss =>
    constructor
    · rintro rfl
      exact ⟨.miss, rfl, rfl⟩
    · rintro ⟨_, rfl, rfl⟩
      rfl
  | error e =>
    constructor
    · rintro rfl
      exact ⟨.error e, rfl, rfl⟩
    · rintro ⟨_, rfl, rfl⟩
      rfl

theorem leads_appends_cons {v : α} {r₁ : Reply (List α)} :
    (r₁.map (v :: ·)).Leads (Appends second) r ↔ ∃ r₂, r₁.Leads (Appends second) r₂ ∧ r = r₂.map (v :: ·) := by
  have hprefix : (r₁.map ([v] ++ ·)).Leads (Appends second) r ↔ _ := leads_appends_prefix
  exact hprefix

theorem joins_assoc : Joins (Joins first second) third pos r ↔ Joins first (Joins second third) pos r := by
  have hinner (r₀ : Reply (List α)) :
      (∃ r₁, r₀.Leads (Appends second) r₁ ∧ r₁.Leads (Appends third) r)
        ↔ r₀.Leads (Appends (Joins second third)) r := by
    rw [Reply.leads_leads]
    refine Reply.leads_congr fun vs next => ?_
    constructor
    · rintro ⟨_, ⟨r₂, hr₂, rfl⟩, hlater⟩
      obtain ⟨r₃, hr₃, rfl⟩ := leads_appends_prefix.1 hlater
      exact ⟨r₃, ⟨r₂, hr₂, hr₃⟩, rfl⟩
    · rintro ⟨r₃, ⟨r₂, hr₂, hr₃⟩, rfl⟩
      exact ⟨_, ⟨r₂, hr₂, rfl⟩, leads_appends_prefix.2 ⟨r₃, hr₃, rfl⟩⟩
  constructor
  · rintro ⟨r₁, ⟨r₀, hr₀, hr₁⟩, hr⟩
    exact ⟨r₀, hr₀, (hinner r₀).1 ⟨r₁, hr₁, hr⟩⟩
  · rintro ⟨r₀, hr₀, hr⟩
    obtain ⟨r₁, hr₁, hr⟩ := (hinner r₀).2 hr
    exact ⟨r₁, ⟨r₀, hr₀, hr₁⟩, hr⟩

theorem Joins.mono {first' second' : Nat → Reply (List α) → Prop} (h : Joins first second pos r)
    (hfirst : ∀ q r, first q r → first' q r) (hsecond : ∀ q r, second q r → second' q r) :
    Joins first' second' pos r := by
  obtain ⟨r₁, hr₁, hr⟩ := h
  refine ⟨r₁, hfirst pos r₁ hr₁, hr.mono fun vs next => ?_⟩
  rintro ⟨r₂, hr₂, hmap⟩
  exact ⟨r₂, hsecond next r₂ hr₂, hmap⟩

end Joins

/-! ## The two phases -/

section Phases

variable {item : Nat → Reply α → Prop} {halt : Nat → Reply β → Prop} {b : Bounds} {keep : β → Option α}
  {count pos : Nat} {r : Reply (List α)}

/-- What a terminator's reply leads to where a repetition ends. -/
def Reply.ended (keep : β → Option α) (pos : Nat) : Reply β → Reply (List α)
  | value u next => untilEnd keep pos u next
  | miss => miss
  | error e => error e

/-- The replies that a terminator leads to where a repetition ends. -/
def Halts (halt : Nat → Reply β → Prop) (keep : β → Option α) (pos : Nat) (r : Reply (List α)) : Prop :=
  ∃ r₁, halt pos r₁ ∧ r = r₁.ended keep pos

/-- The replies of an item that there must be no terminator before. -/
def Unless (halt : Nat → Reply β → Prop) (item : Nat → Reply α → Prop) (pos : Nat) (r : Reply α) : Prop :=
  halt pos .miss ∧ item pos r ∨ (∃ u next, halt pos (.value u next)) ∧ r = .miss

theorem PassesBy.miss (h : PassesBy halt b count pos) (hmin : b.min ≤ count) : halt pos .miss := by
  rcases h with hmiss | ⟨hless, -⟩
  · exact hmiss
  · exact absurd hless (Nat.not_lt.2 hmin)

theorem passesBy_of_lt (hsafe : ∀ q e, ¬halt q (.error e)) (htotal : ∀ q, ∃ r, halt q r) (hmin : count < b.min) :
    PassesBy halt b count pos := by
  obtain ⟨r, hr⟩ := htotal pos
  cases r with
  | value u next => exact .inr ⟨hmin, u, next, hr⟩
  | miss => exact .inl hr
  | error e => exact absurd hr (hsafe pos e)

/-- Below the least number of items, a repetition up to a terminator is a repetition of so many items as are missing,
followed by what it goes on with. The induction is on the number of them. -/
theorem RepeatsUntil.mandatory (hsafe : ∀ q e, ¬halt q (.error e)) (hbounds : ∀ max ∈ b.max, b.min ≤ max) {k : Nat}
    (hcount : count + k = b.min) (h : RepeatsUntil item halt b keep count pos r) :
    Joins (Repeats item (.exactly b.min) count) (RepeatsUntil item halt b keep b.min) pos r := by
  induction k generalizing count pos r with
  | zero =>
    obtain rfl : count = b.min := hcount
    have hfull : ¬(Bounds.exactly b.min).Room b.min := by rw [Bounds.room_exactly]; omega
    refine ⟨_, .full hfull, ?_⟩
    rw [Bounds.closing_of_le (b := .exactly b.min) (Nat.le_refl b.min)]
    exact appends_nil.2 h
  | succ k ih =>
    have hless : count < b.min := by omega
    have hroom : (Bounds.exactly b.min).Room count := Bounds.room_exactly.2 hless
    cases h with
    | halted hmin hhalt => omega
    | haltBroken hhalt => exact absurd hhalt (hsafe _ _)
    | full hpass hfull =>
      refine absurd (fun max hmax => ?_) hfull
      have := hbounds max hmax
      omega
    | missed hpass _ hitem =>
      refine ⟨_, .missed hroom hitem, ?_⟩
      rw [Bounds.closing_of_lt (b := .exactly b.min) hless]
      rfl
    | turn hpass _ hitem hmoves hlater =>
      obtain ⟨r₁, hr₁, hr⟩ := ih (by omega) hlater
      exact ⟨_, .turn hroom hitem Bounds.stalls_exactly hr₁, leads_appends_cons.2 ⟨_, hr, rfl⟩⟩
    | stuck hpass _ hitem hstall =>
      have := le_of_stalls hstall
      omega
    | broken hpass _ hitem => exact ⟨_, .broken hroom hitem, rfl⟩

/-- The converse, for a terminator that always replies. -/
theorem RepeatsUntil.of_mandatory (hsafe : ∀ q e, ¬halt q (.error e)) (htotal : ∀ q, ∃ r, halt q r)
    (hbounds : ∀ max ∈ b.max, b.min ≤ max) {k : Nat} (hcount : count + k = b.min)
    (h : Joins (Repeats item (.exactly b.min) count) (RepeatsUntil item halt b keep b.min) pos r) :
    RepeatsUntil item halt b keep count pos r := by
  obtain ⟨r₁, hr₁, hr⟩ := h
  induction k generalizing count pos r r₁ with
  | zero =>
    obtain rfl : count = b.min := hcount
    have hfull : ¬(Bounds.exactly b.min).Room b.min := by rw [Bounds.room_exactly]; omega
    cases hr₁ with
    | full _ =>
      rw [Bounds.closing_of_le (b := .exactly b.min) (Nat.le_refl b.min)] at hr
      exact appends_nil.1 hr
    | missed hroom _ | turn hroom _ _ _ | stuck hroom _ _ | broken hroom _ => exact absurd hroom hfull
  | succ k ih =>
    have hless : count < b.min := by omega
    have hpass : PassesBy halt b count pos := passesBy_of_lt hsafe htotal hless
    have hroom : b.Room count := by
      intro max hmax
      have := hbounds max hmax
      omega
    cases hr₁ with
    | full hfull => exact absurd (Bounds.room_exactly.2 hless) hfull
    | missed _ hitem =>
      rw [Bounds.closing_of_lt (b := .exactly b.min) hless] at hr
      obtain rfl : r = .miss := hr
      exact .missed hpass hroom hitem
    | turn _ hitem _ hlater =>
      obtain ⟨r₂, hr₂, rfl⟩ := leads_appends_cons.1 hr
      exact .turn hpass hroom hitem (Bounds.not_stalls_of_lt hless) (ih (by omega) _ hlater hr₂)
    | stuck _ _ hstall =>
      rw [Bounds.stalls_exactly] at hstall
      cases hstall
    | broken _ hitem =>
      obtain rfl := hr
      exact .broken hpass hroom hitem

/-- From the least number of items on, a repetition up to a terminator takes the items that there is no terminator
before, and then what the terminator says. -/
theorem RepeatsUntil.voluntary (hsafe : ∀ q e, ¬halt q (.error e)) (h : RepeatsUntil item halt b keep count pos r)
    {k : Nat} (hcount : count = b.min + k) :
    Joins (Repeats (Unless halt item) b.rest k) (Halts halt keep) pos r := by
  induction h generalizing k with
  | @halted count pos next u hmin hhalt =>
    have hend : (Reply.value [] pos).Leads (Appends (Halts halt keep)) (untilEnd keep pos u next) :=
      appends_nil.2 ⟨_, hhalt, rfl⟩
    by_cases hroom : b.rest.Room k
    · exact ⟨_, .missed hroom (.inr ⟨⟨u, next, hhalt⟩, rfl⟩), hend⟩
    · exact ⟨_, .full hroom, hend⟩
  | haltBroken hhalt => exact absurd hhalt (hsafe _ _)
  | full hpass hfull =>
    subst hcount
    have hmiss := hpass.miss (by omega)
    exact ⟨_, .full (mt Bounds.room_rest.1 hfull), appends_nil.2 ⟨_, hmiss, rfl⟩⟩
  | missed hpass hroom hitem =>
    subst hcount
    have hmiss := hpass.miss (by omega)
    exact ⟨_, .missed (Bounds.room_rest.2 hroom) (.inl ⟨hmiss, hitem⟩), appends_nil.2 ⟨_, hmiss, rfl⟩⟩
  | turn hpass hroom hitem hmoves _ ih =>
    subst hcount
    have hmiss := hpass.miss (by omega)
    obtain ⟨r₁, hr₁, hr⟩ := ih (k := k + 1) (by omega)
    refine ⟨_, .turn (Bounds.room_rest.2 hroom) (.inl ⟨hmiss, hitem⟩) ?_ hr₁, leads_appends_cons.2 ⟨_, hr, rfl⟩⟩
    rw [Bounds.stalls_rest, hmoves]
  | stuck hpass hroom hitem hstall =>
    subst hcount
    have hmiss := hpass.miss (by omega)
    refine ⟨_, .stuck (Bounds.room_rest.2 hroom) (.inl ⟨hmiss, hitem⟩) ?_, rfl⟩
    rw [Bounds.stalls_rest, hstall]
  | broken hpass hroom hitem =>
    subst hcount
    have hmiss := hpass.miss (by omega)
    exact ⟨_, .broken (Bounds.room_rest.2 hroom) (.inl ⟨hmiss, hitem⟩), rfl⟩

/-- The converse, for a terminator that replies in one way only: the lookahead behind the last item finds what the
negative lookahead before the next one has found. -/
theorem RepeatsUntil.of_voluntary (hsafe : ∀ q e, ¬halt q (.error e))
    (hunique : ∀ q r r', halt q r → halt q r' → r = r') {k : Nat}
    (h : Joins (Repeats (Unless halt item) b.rest k) (Halts halt keep) pos r) :
    RepeatsUntil item halt b keep (b.min + k) pos r := by
  obtain ⟨r₁, hr₁, hr⟩ := h
  induction hr₁ generalizing r with
  | @full k pos hfull =>
    obtain ⟨r₂, hr₂, hend⟩ := appends_nil.1 hr
    cases r₂ with
    | value u next =>
      obtain rfl : r = untilEnd keep pos u next := hend
      exact .halted (by omega) hr₂
    | miss =>
      obtain rfl : r = .miss := hend
      exact .full (.inl hr₂) (mt Bounds.room_rest.2 hfull)
    | error e => exact absurd hr₂ (hsafe pos e)
  | @missed k pos hroom hitem =>
    obtain ⟨r₂, hr₂, hend⟩ := appends_nil.1 hr
    rcases hitem with ⟨hmiss, hitem⟩ | ⟨⟨u, next, hhalt⟩, -⟩
    · obtain rfl := hunique pos _ _ hmiss hr₂
      obtain rfl : r = .miss := hend
      exact .missed (.inl hmiss) (Bounds.room_rest.1 hroom) hitem
    · obtain rfl := hunique pos _ _ hhalt hr₂
      obtain rfl : r = untilEnd keep pos u next := hend
      exact .halted (by omega) hhalt
  | turn hroom hitem hmoves _ ih =>
    obtain ⟨r₂, hr₂, rfl⟩ := leads_appends_cons.1 hr
    rcases hitem with ⟨hmiss, hitem⟩ | ⟨-, hvalue⟩
    · rw [Bounds.stalls_rest] at hmoves
      exact .turn (.inl hmiss) (Bounds.room_rest.1 hroom) hitem hmoves (ih hr₂)
    · cases hvalue
  | stuck hroom hitem hstall =>
    obtain rfl := hr
    rcases hitem with ⟨hmiss, hitem⟩ | ⟨-, hvalue⟩
    · rw [Bounds.stalls_rest] at hstall
      exact .stuck (.inl hmiss) (Bounds.room_rest.1 hroom) hitem hstall
    · cases hvalue
  | broken hroom hitem =>
    obtain rfl := hr
    rcases hitem with ⟨hmiss, hitem⟩ | ⟨-, herror⟩
    · exact .broken (.inl hmiss) (Bounds.room_rest.1 hroom) hitem
    · cases herror

theorem RepeatsUntil.admits {vs : List α} {next : Nat} (h : RepeatsUntil item halt b keep count pos (.value vs next))
    (hcount : ∀ max ∈ b.max, count ≤ max) : ∃ n, b.Admits n := by
  generalize hr : Reply.value vs next = r at h
  induction h generalizing vs next with
  | halted hmin hhalt => exact ⟨_, hmin, hcount⟩
  | @turn count pos after v r hpass hroom hitem hmoves _ ih =>
    cases r with
    | value ws next => exact ih (fun max hmax => hroom max hmax) rfl
    | miss => cases hr
    | error e => cases hr
  | haltBroken hhalt => cases hr
  | full hpass hfull => cases hr
  | missed hpass hroom hitem => cases hr
  | stuck hpass hroom hitem hstall => cases hr
  | broken hpass hroom hitem => cases hr

end Phases

/-! ## Grammars -/

section Grammars

variable [DecidableEq ι] {d : Declarations ι Γ} {s : Stream ι} {pos : Nat} {b : Bounds} {g : Grammar ι Γ α}
  {r : Reply (List α)}

theorem replies_append {h : Grammar ι Γ (List α)} {g : Grammar ι Γ (List α)} :
    d.Replies (.append g h) s pos r ↔ Joins (d.Replies g s) (d.Replies h s) pos r :=
  Declarations.replies_thenCombine (· ++ ·)

theorem replies_skip_peek {g : Grammar ι Γ (List α)} {stop : Grammar ι Γ β} :
    d.Replies (.skip g (.peek stop)) s pos r
      ↔ Joins (d.Replies g s) (Halts (d.Replies stop s) fun _ => none) pos r := by
  have hlast (vs : List α) (next : Nat) (r₂ : Reply β) :
      (r₂.ended (fun _ => none) next).map (vs ++ ·) = (r₂.stay next).map fun _ => vs := by
    cases r₂ with
    | value u q => simp [Reply.ended, Reply.stay, untilEnd]
    | miss => rfl
    | error e => rfl
  refine (Declarations.replies_thenCombine _).trans (exists_congr fun r₁ => and_congr_right fun _ => ?_)
  refine Reply.leads_congr fun vs next => ?_
  constructor
  · rintro ⟨_, hpeek, rfl⟩
    obtain ⟨r₂, hr₂, rfl⟩ := Declarations.replies_peek.1 hpeek
    exact ⟨_, ⟨r₂, hr₂, rfl⟩, (hlast vs next r₂).symm⟩
  · rintro ⟨_, ⟨r₂, hr₂, rfl⟩, rfl⟩
    exact ⟨_, Declarations.replies_peek.2 ⟨r₂, hr₂, rfl⟩, hlast vs next r₂⟩

theorem replies_concat {g : Grammar ι Γ (List α)} {stop : Grammar ι Γ α} :
    d.Replies (.thenCombine (fun vs v => vs ++ [v]) g stop) s pos r
      ↔ Joins (d.Replies g s) (Halts (d.Replies stop s) some) pos r := by
  have hlast (vs : List α) (next : Nat) (r₂ : Reply α) :
      (r₂.ended some next).map (vs ++ ·) = r₂.map fun v => vs ++ [v] := by
    cases r₂ <;> rfl
  refine (Declarations.replies_thenCombine _).trans (exists_congr fun r₁ => and_congr_right fun _ => ?_)
  refine Reply.leads_congr fun vs next => ?_
  constructor
  · rintro ⟨r₂, hr₂, rfl⟩
    exact ⟨_, ⟨r₂, hr₂, rfl⟩, (hlast vs next r₂).symm⟩
  · rintro ⟨_, ⟨r₂, hr₂, rfl⟩, rfl⟩
    exact ⟨r₂, hr₂, hlast vs next r₂⟩

variable {stop : Grammar ι Γ β}

theorem replies_unless (hsafe : ∀ q e, ¬d.Replies stop s q (.error e)) (description : String) {r : Reply α} :
    d.Replies (.andThen (.shouldFail description stop) g) s pos r ↔ Unless (d.Replies stop s) (d.Replies g s) pos r := by
  refine (Declarations.replies_thenCombine _).trans ?_
  constructor
  · rintro ⟨_, hahead, hlead⟩
    obtain ⟨r₁, hr₁, rfl⟩ := (Declarations.replies_shouldFail description).1 hahead
    cases r₁ with
    | value u next => exact .inr ⟨⟨u, next, hr₁⟩, hlead⟩
    | miss =>
      obtain ⟨r₂, hr₂, rfl⟩ := hlead
      rw [Reply.map_id]
      exact .inl ⟨hr₁, hr₂⟩
    | error e => exact absurd hr₁ (hsafe pos e)
  · rintro (⟨hmiss, hitem⟩ | ⟨⟨u, next, hhalt⟩, rfl⟩)
    · exact ⟨_, (Declarations.replies_shouldFail description).2 ⟨_, hmiss, rfl⟩, r, hitem, r.map_id.symm⟩
    · exact ⟨_, (Declarations.replies_shouldFail description).2 ⟨_, hhalt, rfl⟩, rfl⟩

theorem joins_untilAhead (hsafe : ∀ q e, ¬d.Replies stop s q (.error e)) (description : String)
    {last : Nat → Reply (List α) → Prop} :
    Joins (d.Replies (.untilAhead b description g stop) s) last pos r
      ↔ Joins (Repeats (d.Replies g s) (.exactly b.min) 0)
          (Joins (Repeats (Unless (d.Replies stop s) (d.Replies g s)) b.rest 0) last) pos r := by
  rw [← joins_assoc]
  have hparts (q : Nat) (r : Reply (List α)) : d.Replies (.untilAhead b description g stop) s q r
      ↔ Joins (Repeats (d.Replies g s) (.exactly b.min) 0)
          (Repeats (Unless (d.Replies stop s) (d.Replies g s)) b.rest 0) q r := by
    refine replies_append.trans ?_
    constructor
    · intro h
      refine h.mono (fun q r hr => Declarations.replies_times.1 hr) fun q r hr => ?_
      exact (Declarations.replies_times.1 hr).mono fun q r hr => (replies_unless hsafe description).1 hr
    · intro h
      refine h.mono (fun q r hr => Declarations.replies_times.2 hr) fun q r hr => ?_
      exact Declarations.replies_times.2 (hr.mono fun q r hr => (replies_unless hsafe description).2 hr)
  constructor
  · intro h
    exact h.mono (fun q r => (hparts q r).1) fun q r hr => hr
  · intro h
    exact h.mono (fun q r => (hparts q r).2) fun q r hr => hr

section Ahead

variable (hsafe : ∀ q e, ¬d.Replies stop s q (.error e)) (hbounds : ∀ max ∈ b.max, b.min ≤ max) (description : String)
  {keep : β → Option α}

include hsafe hbounds

theorem joins_of_repeatUntil (h : d.Replies (.repeatUntil b keep g stop) s pos r) :
    Joins (d.Replies (.untilAhead b description g stop) s) (Halts (d.Replies stop s) keep) pos r := by
  have hfirst := RepeatsUntil.mandatory hsafe hbounds (Nat.zero_add b.min) (Declarations.replies_repeatUntil.1 h)
  refine (joins_untilAhead hsafe description).2 (hfirst.mono (fun q r hr => hr) fun q r hr => ?_)
  exact hr.voluntary hsafe rfl

theorem repeatUntil_of_joins (htotal : ∀ q, ∃ r, d.Replies stop s q r)
    (h : Joins (d.Replies (.untilAhead b description g stop) s) (Halts (d.Replies stop s) keep) pos r) :
    d.Replies (.repeatUntil b keep g stop) s pos r := by
  have hparts := (joins_untilAhead hsafe description).1 h
  refine Declarations.replies_repeatUntil.2 (.of_mandatory hsafe htotal hbounds (Nat.zero_add b.min) ?_)
  refine hparts.mono (fun q r hr => hr) fun q r hr => ?_
  exact RepeatsUntil.of_voluntary hsafe (fun q r r' hr hr' => hr.unique hr') (k := 0) hr

end Ahead

theorem no_value_of_inverted (hbounds : ∃ max ∈ b.max, max < b.min) {keep : β → Option α} {vs : List α} {next : Nat} :
    ¬d.Replies (.repeatUntil b keep g stop) s pos (.value vs next) := by
  intro h
  obtain ⟨max, hmax, hless⟩ := hbounds
  obtain ⟨n, hmin, hmost⟩ := (Declarations.replies_repeatUntil.1 h).admits fun max _ => Nat.zero_le max
  have := hmost max hmax
  omega

end Grammars

/-- **Repetitions up to a terminator look ahead.** Unless the bounds are inverted, and for a terminator that is never in
error, such a repetition replies what its definition by lookahead replies: the same values up to the same offset, a miss,
or the same error. Only a terminator that sometimes does not come back can keep the repetition from a reply that the
definition has, since the repetition tries it also where items are missing. With inverted bounds no value is replied. -/
theorem until_looks_ahead [DecidableEq ι] (d : Declarations ι Γ) (s : Stream ι) (b : Bounds) (g : Grammar ι Γ α)
    (description : String) :
    (∀ stop : Grammar ι Γ β, (∀ q e, ¬d.Replies stop s q (.error e)) → (∀ max ∈ b.max, b.min ≤ max) → ∀ pos r,
      (d.Replies (.manyUntilBounded b g stop) s pos r →
        d.Replies (.skip (.untilAhead b description g stop) (.peek stop)) s pos r) ∧
      ((∀ q, ∃ r, d.Replies stop s q r) →
        d.Replies (.skip (.untilAhead b description g stop) (.peek stop)) s pos r →
        d.Replies (.manyUntilBounded b g stop) s pos r)) ∧
    (∀ stop : Grammar ι Γ α, (∀ q e, ¬d.Replies stop s q (.error e)) → (∀ max ∈ b.max, b.min ≤ max) → ∀ pos r,
      (d.Replies (.manyUntilConsume b g stop) s pos r →
        d.Replies (.thenCombine (fun vs v => vs ++ [v]) (.untilAhead b description g stop) stop) s pos r) ∧
      ((∀ q, ∃ r, d.Replies stop s q r) →
        d.Replies (.thenCombine (fun vs v => vs ++ [v]) (.untilAhead b description g stop) stop) s pos r →
        d.Replies (.manyUntilConsume b g stop) s pos r)) ∧
    ((∃ max ∈ b.max, max < b.min) →
      (∀ (stop : Grammar ι Γ β) pos vs next, ¬d.Replies (.manyUntilBounded b g stop) s pos (.value vs next)) ∧
      ∀ (stop : Grammar ι Γ α) pos vs next, ¬d.Replies (.manyUntilConsume b g stop) s pos (.value vs next)) := by
  refine ⟨fun stop hsafe hbounds pos r => ⟨fun h => ?_, fun htotal h => ?_⟩,
    fun stop hsafe hbounds pos r => ⟨fun h => ?_, fun htotal h => ?_⟩, fun hbounds => ⟨?_, ?_⟩⟩
  · exact replies_skip_peek.2 (joins_of_repeatUntil hsafe hbounds description h)
  · exact repeatUntil_of_joins hsafe hbounds description htotal (replies_skip_peek.1 h)
  · exact replies_concat.2 (joins_of_repeatUntil hsafe hbounds description h)
  · exact repeatUntil_of_joins hsafe hbounds description htotal (replies_concat.1 h)
  · intro stop pos vs next
    exact no_value_of_inverted hbounds
  · intro stop pos vs next
    exact no_value_of_inverted hbounds

/-! ### Letters up to a mark -/

section Literals

variable {d : Declarations Char Γ} {s : Stream Char} {text : String} {q : Nat}

theorem replies_literal {r : Reply String} : d.Replies (.literal text) s q r
    ↔ r = if s.hasAt text.toList q then .value text (q + Stream.extent text.toList) else .miss := by
  have hmap : d.Replies (.literal text) s q r ↔ ∃ r₁, d.Replies (.leaf (.literal text.toList text)) s q r₁ ∧
      r = r₁.map String.ofList := Declarations.replies_map String.ofList
  rw [hmap]
  simp only [Declarations.replies_leaf, exists_eq_left, Leaf.step]
  split
  · simp [Step.done]
  · simp [Step.failed]

theorem literal_not_error (e : DefinitionError) : ¬d.Replies (.literal text) s q (.error e) := by
  intro h
  have h := replies_literal.1 h
  split at h
  · cases h
  · cases h

end Literals

def Grammar.endMark : Grammar Char (fun _ => String) String := literal ";"

open Grammar in
/-- Two letters up to a mark, which stays unread or comes with them; and none under bounds that admit no number. -/
theorem until_looks_ahead_letters :
    Declarations.none.Replies (.skip (.untilAhead ⟨1, some 3⟩ "no mark" anA endMark) (.peek endMark))
      (.ofString "aa;") 0 (.value ["a", "a"] 2) ∧
    Declarations.none.Replies (.manyUntilBounded ⟨1, some 3⟩ anA endMark) (.ofString "aa;") 0 (.value ["a", "a"] 2) ∧
    Declarations.none.Replies (.thenCombine (fun vs v => vs ++ [v]) (.untilAhead ⟨1, some 3⟩ "no mark" anA endMark) endMark)
      (.ofString "aa;") 0 (.value ["a", "a", ";"] 3) ∧
    Declarations.none.Replies (.manyUntilConsume ⟨1, some 3⟩ anA endMark) (.ofString "aa;") 0
      (.value ["a", "a", ";"] 3) ∧
    ¬Declarations.none.Replies (.manyUntilBounded ⟨2, some 1⟩ anA endMark) (.ofString "aa;") 0 (.value ["a", "a"] 2) := by
  let text := Stream.ofString "aa;"
  have hsafe (q : Nat) (e : DefinitionError) : ¬Declarations.none.Replies endMark text q (.error e) :=
    literal_not_error e
  have htotal (q : Nat) : ∃ r, Declarations.none.Replies endMark text q r :=
    ⟨_, replies_literal.2 rfl⟩
  have hbounds : ∀ max ∈ (⟨1, some 3⟩ : Bounds).max, 1 ≤ max := by
    intro max hmax
    obtain rfl := Option.some.inj hmax
    decide
  have hahead := until_looks_ahead (β := String) Declarations.none text ⟨1, some 3⟩ anA "no mark"
  have hinverted := until_looks_ahead (β := String) Declarations.none text ⟨2, some 1⟩ anA "no mark"
  have hunread : Declarations.none.Replies (.manyUntilBounded ⟨1, some 3⟩ anA endMark) text 0 (.value ["a", "a"] 2) :=
    Declarations.replies_of_run (n := 1) ⟨.success ["a", "a"] 2 none, by decide, rfl⟩
  have hread : Declarations.none.Replies (.manyUntilConsume ⟨1, some 3⟩ anA endMark) text 0
      (.value ["a", "a", ";"] 3) :=
    Declarations.replies_of_run (n := 1) ⟨.success ["a", "a", ";"] 3 none, by decide, rfl⟩
  have hunread' := (hahead.1 endMark hsafe hbounds 0 _).1 hunread
  have hread' := (hahead.2.1 endMark hsafe hbounds 0 _).1 hread
  refine ⟨hunread', (hahead.1 endMark hsafe hbounds 0 _).2 htotal hunread', hread',
    (hahead.2.1 endMark hsafe hbounds 0 _).2 htotal hread', ?_⟩
  exact (hinverted.2.2 ⟨1, rfl, by decide⟩).1 endMark 0 _ _

end Descent
