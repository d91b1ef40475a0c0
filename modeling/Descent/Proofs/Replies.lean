import Descent.Proofs.Budget
import Descent.Proofs.Regrouping

/-!
# Replies

A reply is what is left of a step when its witness and the offset of a failure are left out: a value with the offset
where it ends, a miss, or an error. A grammar has at most one reply from an offset (`Replies.unique`), and the reply of
a grammar that is put together from others follows from theirs (`replies_thenCombine`, `replies_map`, `replies_peek`,
`replies_shouldFail`, `replies_or_succeed`).

`r.Leads k r'` says that `r'` comes of `r` when a value is followed as `k` says, while a miss and an error stay as they
are. It is the form of all rules for one grammar after another.
-/

namespace Descent

variable {ι : Type} [Item ι] {Γ : Nat → Type} {α β γ : Type}

/-- What a step says apart from its witness. -/
inductive Reply (α : Type) where
  | value (v : α) (next : Nat)
  | miss
  | error (e : DefinitionError)
  deriving DecidableEq, Repr

namespace Reply

def map (f : α → β) : Reply α → Reply β
  | value v next => value (f v) next
  | miss => miss
  | error e => error e

/-- Whether a reply leads to another one, when a value is followed as `k` says. -/
def Leads (k : α → Nat → Reply β → Prop) : Reply α → Reply β → Prop
  | value v next, r => k v next r
  | miss, r => r = miss
  | error e, r => r = error e

/-- The value without moving from `pos`. -/
def stay (pos : Nat) : Reply α → Reply α
  | value v _ => value v pos
  | r => r

/-- A miss for a value, and the other way round. -/
def negate (pos : Nat) : Reply α → Reply Unit
  | value _ _ => miss
  | miss => value () pos
  | error e => error e

/-- Another reply for a miss. -/
def orElse : Reply α → Reply α → Reply α
  | miss, r' => r'
  | r, _ => r

@[simp] theorem map_value (f : α → β) (v : α) (next : Nat) : (value v next).map f = value (f v) next := rfl

@[simp] theorem map_miss (f : α → β) : (miss : Reply α).map f = miss := rfl

@[simp] theorem map_error (f : α → β) (e : DefinitionError) : (error e : Reply α).map f = error e := rfl

@[simp] theorem map_map (f : α → β) (g : β → γ) (r : Reply α) : (r.map f).map g = r.map fun v => g (f v) := by
  cases r <;> rfl

theorem map_id (r : Reply α) : (r.map fun v => v) = r := by
  cases r <;> rfl

variable {k : α → Nat → Reply β → Prop} {l : β → Nat → Reply γ → Prop}

theorem leads_congr {k' : α → Nat → Reply β → Prop} {r : Reply α} {r' : Reply β}
    (hk : ∀ v next, k v next r' ↔ k' v next r') : r.Leads k r' ↔ r.Leads k' r' := by
  cases r with
  | value v next => exact hk v next
  | miss => exact Iff.rfl
  | error e => exact Iff.rfl

theorem Leads.mono {k' : α → Nat → Reply β → Prop} {r : Reply α} {r' : Reply β} (h : r.Leads k r')
    (hk : ∀ v next, k v next r' → k' v next r') : r.Leads k' r' := by
  cases r with
  | value v next => exact hk v next h
  | miss => exact h
  | error e => exact h

theorem leads_leads {r : Reply α} {r' : Reply γ} :
    (∃ r₁, r.Leads k r₁ ∧ r₁.Leads l r') ↔ r.Leads (fun v next r' => ∃ r₁, k v next r₁ ∧ r₁.Leads l r') r' := by
  cases r with
  | value v next => exact Iff.rfl
  | miss =>
    constructor
    · rintro ⟨r₁, rfl, h⟩
      exact h
    · intro h
      exact ⟨miss, rfl, h⟩
  | error e =>
    constructor
    · rintro ⟨r₁, rfl, h⟩
      exact h
    · intro h
      exact ⟨error e, rfl, h⟩

end Reply

/-! ## Steps and parsers -/

def Step.reply : Step α → Reply α
  | success v next _ => .value v next
  | fail _ _ => .miss
  | error e => .error e

@[simp] theorem Step.reply_success (v : α) (next : Nat) (w : Option Furthest) :
    (success v next w).reply = .value v next := rfl

@[simp] theorem Step.reply_fail (q : Nat) (w : Furthest) : (fail q w : Step α).reply = .miss := rfl

@[simp] theorem Step.reply_error (e : DefinitionError) : (error e : Step α).reply = .error e := rfl

@[simp] theorem Step.reply_map (f : α → β) (step : Step α) : (step.map f).reply = step.reply.map f := by
  cases step <;> rfl

@[simp] theorem Step.reply_aggregate (seen : Option Furthest) (step : Step α) :
    (step.aggregate seen).reply = step.reply := by
  cases step <;> rfl

namespace Step

/-- The step of a lookahead from `pos`. -/
def stay (pos : Nat) : Step α → Step α
  | success v _ w => success v pos w
  | step => step

/-- The step of a negative lookahead from `pos`. -/
def negate (description : String) (pos : Nat) : Step α → Step Unit
  | success .. => failed pos description
  | fail .. => done () pos
  | error e => error e

/-- The step of an alternative that always has a value. -/
def orDone (v : α) (pos : Nat) : Step α → Step α
  | fail _ w => success v pos (some w)
  | step => step

theorem reply_stay (pos : Nat) (step : Step α) : (step.stay pos).reply = step.reply.stay pos := by
  cases step <;> rfl

theorem reply_negate (description : String) (pos : Nat) (step : Step α) :
    (step.negate description pos).reply = step.reply.negate pos := by
  cases step <;> rfl

theorem reply_orDone (v : α) (pos : Nat) (step : Step α) :
    (step.orDone v pos).reply = step.reply.orElse (.value v pos) := by
  cases step <;> rfl

end Step

theorem Parser.peek_plain (p : Parser Option ι α) (s : Stream ι) (pos : Nat) :
    peek p s pos = (p s pos).map (Step.stay pos) := by
  unfold peek
  rw [run_plain]
  cases p s pos with
  | none => rfl
  | some step => cases step <;> rfl

theorem Parser.shouldFail_plain (description : String) (p : Parser Option ι α) (s : Stream ι) (pos : Nat) :
    shouldFail description p s pos = (p s pos).map (Step.negate description pos) := by
  unfold shouldFail
  rw [run_plain]
  cases p s pos with
  | none => rfl
  | some step => cases step <;> rfl

/-- Whether a plain run of a parser comes back with this reply. -/
def Parser.Replies (p : Parser Option ι α) (s : Stream ι) (pos : Nat) (r : Reply α) : Prop :=
  ∃ step, p s pos = some step ∧ step.reply = r

theorem Parser.replies_value {p : Parser Option ι α} {s : Stream ι} {pos next : Nat} {v : α} :
    p.Replies s pos (.value v next) ↔ ∃ w, p s pos = some (.success v next w) := by
  constructor
  · rintro ⟨step, hrun, hreply⟩
    cases step with
    | success v' next' w =>
      cases hreply
      exact ⟨w, hrun⟩
    | fail q w => cases hreply
    | error e => cases hreply
  · rintro ⟨w, hrun⟩
    exact ⟨_, hrun, rfl⟩

theorem Parser.replies_miss {p : Parser Option ι α} {s : Stream ι} {pos : Nat} :
    p.Replies s pos .miss ↔ ∃ q w, p s pos = some (.fail q w) := by
  constructor
  · rintro ⟨step, hrun, hreply⟩
    cases step with
    | success v next w => cases hreply
    | fail q w => exact ⟨q, w, hrun⟩
    | error e => cases hreply
  · rintro ⟨q, w, hrun⟩
    exact ⟨_, hrun, rfl⟩

theorem Parser.replies_error {p : Parser Option ι α} {s : Stream ι} {pos : Nat} {e : DefinitionError} :
    p.Replies s pos (.error e) ↔ p s pos = some (.error e) := by
  constructor
  · rintro ⟨step, hrun, hreply⟩
    cases step with
    | success v next w => cases hreply
    | fail q w => cases hreply
    | error e' =>
      cases hreply
      exact hrun
  · intro hrun
    exact ⟨_, hrun, rfl⟩

/-! ## Grammars -/

namespace Declarations

variable [DecidableEq ι] {d : Declarations ι Γ} {s : Stream ι} {pos : Nat}

/-- Whether a grammar comes to a step with this reply. -/
def Replies (d : Declarations ι Γ) (g : Grammar ι Γ α) (s : Stream ι) (pos : Nat) (r : Reply α) : Prop :=
  ∃ step, d.ComesTo g s pos step ∧ step.reply = r

section Runs

variable {g : Grammar ι Γ α} {h : Grammar ι Γ β} {r r' : Reply α}

theorem Replies.unique (hr : d.Replies g s pos r) (hr' : d.Replies g s pos r') : r = r' := by
  obtain ⟨step, hstep, rfl⟩ := hr
  obtain ⟨step', hstep', rfl⟩ := hr'
  rw [hstep.unique hstep']

theorem replies_of_run {n : Nat} (hr : (d.parser n g).Replies s pos r) : d.Replies g s pos r := by
  obtain ⟨step, hrun, hreply⟩ := hr
  refine ⟨step, comesTo_of_runAt (n := n) ?_, hreply⟩
  rw [runAt, Parser.run_plain, hrun]

theorem Replies.parser (hr : d.Replies g s pos r) : ∃ n, ∀ m, n ≤ m → (d.parser m g).Replies s pos r := by
  obtain ⟨step, ⟨n, hstep⟩, hreply⟩ := hr
  refine ⟨n, fun m hm => ⟨step, ?_, hreply⟩⟩
  have hrun := hstep m hm
  rwa [runAt, Parser.run_plain] at hrun

theorem replies_of_part {c : Grammar ι Γ β} {f : Step α → Step β} {k : Reply α → Reply β} {r : Reply β}
    (hrun : ∀ n, d.parser n c s pos = (d.parser n g s pos : Option (Step α)).map f) (hf : ∀ step, (f step).reply = k step.reply) :
    d.Replies c s pos r ↔ ∃ r₁, d.Replies g s pos r₁ ∧ r = k r₁ := by
  constructor
  · intro hr
    obtain ⟨n, hn⟩ := hr.parser
    obtain ⟨step', hstep', rfl⟩ := hn n (Nat.le_refl n)
    rw [hrun] at hstep'
    obtain ⟨step, hstep, rfl⟩ := Option.map_eq_some_iff.1 hstep'
    exact ⟨step.reply, replies_of_run ⟨step, hstep, rfl⟩, hf step⟩
  · rintro ⟨r₁, hr, rfl⟩
    obtain ⟨n, hn⟩ := hr.parser
    obtain ⟨step, hstep, rfl⟩ := hn n (Nat.le_refl n)
    refine replies_of_run (n := n) ⟨f step, ?_, hf step⟩
    rw [hrun, hstep, Option.map_some]

theorem replies_map (f : α → β) {r : Reply β} :
    d.Replies (.map f g) s pos r ↔ ∃ r₁, d.Replies g s pos r₁ ∧ r = r₁.map f :=
  replies_of_part (fun n => Parser.map_plain (d.parser n g) f s pos) (Step.reply_map f)

theorem replies_peek : d.Replies (.peek g) s pos r ↔ ∃ r₁, d.Replies g s pos r₁ ∧ r = r₁.stay pos :=
  replies_of_part (fun n => Parser.peek_plain (d.parser n g) s pos) (Step.reply_stay pos)

theorem replies_shouldFail (description : String) {r : Reply Unit} :
    d.Replies (.shouldFail description g) s pos r ↔ ∃ r₁, d.Replies g s pos r₁ ∧ r = r₁.negate pos :=
  replies_of_part (fun n => Parser.shouldFail_plain description (d.parser n g) s pos)
    (Step.reply_negate description pos)

theorem replies_leaf {l : Leaf ι α} : d.Replies (.leaf l) s pos r ↔ r = (l.step s pos).reply := by
  constructor
  · intro hr
    obtain ⟨n, hn⟩ := hr.parser
    obtain ⟨step, hstep, rfl⟩ := hn n (Nat.le_refl n)
    rw [parser, Grammar.parser_leaf] at hstep
    rw [Option.some.inj hstep]
  · rintro rfl
    exact replies_of_run (n := 0) ⟨_, Grammar.parser_leaf l 0 (d.call 0) s pos, rfl⟩

theorem replies_or_succeed (v : α) :
    d.Replies (.or g (.succeed v)) s pos r ↔ ∃ r₁, d.Replies g s pos r₁ ∧ r = r₁.orElse (.value v pos) := by
  have hrun (n : Nat) : d.parser n (.or g (.succeed v)) s pos
      = (d.parser n g s pos : Option (Step α)).map (Step.orDone v pos) := by
    show Parser.alt [d.parser n g, d.parser n (.succeed v)] s pos = _
    rw [Parser.alt, Parser.altFrom, Parser.run_plain]
    cases (d.parser n g s pos : Option (Step α)) with
    | none => rfl
    | some step =>
      cases step with
      | success v' next w =>
        show some (Step.success v' next (Furthest.merge w Option.none)) = _
        rw [Furthest.merge_none_right]
        rfl
      | fail q w => rfl
      | error e => rfl
  exact replies_of_part hrun (Step.reply_orDone v pos)

theorem replies_thenCombine (f : α → β → γ) {r : Reply γ} :
    d.Replies (.thenCombine f g h) s pos r ↔
      ∃ r₁, d.Replies g s pos r₁ ∧
        r₁.Leads (fun v next r => ∃ r₂, d.Replies h s next r₂ ∧ r = r₂.map (f v)) r := by
  have hrun (n : Nat) : d.parser n (.thenCombine f g h) s pos
      = (d.parser n g s pos : Option (Step α)).bind fun step =>
          step.followedBy fun v next => (d.parser n h s next : Option (Step β)).map (Step.map (f v)) :=
    Parser.thenCombine_plain (d.parser n g) (d.parser n h) f s pos
  constructor
  · intro hr
    obtain ⟨n, hn⟩ := hr.parser
    obtain ⟨step, hstep, rfl⟩ := hn n (Nat.le_refl n)
    rw [hrun] at hstep
    obtain ⟨first, hfirst, hrest⟩ := Option.bind_eq_some_iff.1 hstep
    refine ⟨first.reply, replies_of_run ⟨first, hfirst, rfl⟩, ?_⟩
    cases first with
    | success v next w =>
      obtain ⟨mapped, hmapped, rfl⟩ := Option.map_eq_some_iff.1 hrest
      obtain ⟨second, hsecond, rfl⟩ := Option.map_eq_some_iff.1 hmapped
      exact ⟨second.reply, replies_of_run ⟨second, hsecond, rfl⟩, by simp⟩
    | fail q w =>
      cases hrest
      rfl
    | error e =>
      cases hrest
      rfl
  · rintro ⟨r₁, hr₁, hleads⟩
    obtain ⟨n, hn⟩ := hr₁.parser
    cases r₁ with
    | value v next =>
      obtain ⟨r₂, hr₂, rfl⟩ := hleads
      obtain ⟨k, hk⟩ := hr₂.parser
      obtain ⟨w, hfirst⟩ := Parser.replies_value.1 (hn (max n k) (Nat.le_max_left n k))
      obtain ⟨second, hsecond, rfl⟩ := hk (max n k) (Nat.le_max_right n k)
      refine replies_of_run (n := max n k) ⟨(second.map (f v)).aggregate w, ?_, by simp⟩
      rw [hrun, hfirst]
      simp [Step.followedBy, hsecond]
    | miss =>
      obtain rfl : r = .miss := hleads
      obtain ⟨q, w, hfirst⟩ := Parser.replies_miss.1 (hn n (Nat.le_refl n))
      refine replies_of_run (n := n) ⟨.fail q w, ?_, rfl⟩
      rw [hrun, hfirst]
      rfl
    | error e =>
      obtain rfl : r = .error e := hleads
      have hfirst := Parser.replies_error.1 (hn n (Nat.le_refl n))
      refine replies_of_run (n := n) ⟨.error e, ?_, rfl⟩
      rw [hrun, hfirst]
      rfl

end Runs

end Declarations

end Descent
