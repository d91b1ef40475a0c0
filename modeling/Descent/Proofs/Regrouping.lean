import Descent.Grammar.Text
import Descent.Proofs.Invariant
import Descent.Proofs.Report

/-!
# One after another, in any grouping

On plain runs `bind` is `Step.followedBy`: what follows is run where the step ended, and the witness of the step is added
to what comes back. Since witnesses form a semilattice it does not matter whether they are added from the left or from
the right (`followedBy_assoc`). So `bind` is a monad on whole steps, with `succeed` as its unit (`bind_laws`), and
`thenCombine` is an instance of it.

Grammars that are put together from the same parts in a row, in whatever grouping (`Grammar.Chains`), come back with the
same outline: they end or fail at the same offset, with the same witness (`outline_chains`).
-/

namespace Descent

variable {ι : Type} [Item ι] {Γ : Nat → Type} {α β γ : Type}

/-! ## Steps -/

namespace Step

/-- What comes of a step when a success is followed by another run, from where it ended. -/
def followedBy (step : Step α) (k : α → Nat → Option (Step β)) : Option (Step β) :=
  match step with
  | success v next seen => (k v next).map (aggregate seen)
  | fail q w => some (fail q w)
  | error e => some (error e)

theorem followedBy_done (v : α) (pos : Nat) (k : α → Nat → Option (Step β)) : (done v pos).followedBy k = k v pos :=
  map_aggregate_none (k v pos)

theorem followedBy_succeed (step : Step α) : (step.followedBy fun v next => some (done v next)) = some step := by
  cases step with
  | success v next w => rfl
  | fail q w => rfl
  | error e => rfl

theorem followedBy_aggregate (seen : Option Furthest) (step : Step α) (k : α → Nat → Option (Step β)) :
    (step.aggregate seen).followedBy k = (step.followedBy k).map (aggregate seen) := by
  cases step with
  | success v next w =>
    show (k v next).map (aggregate (Furthest.merge w seen)) = ((k v next).map (aggregate w)).map (aggregate seen)
    rw [map_aggregate_aggregate, Furthest.merge_comm]
  | fail q w => rfl
  | error e => rfl

theorem followedBy_assoc (step : Step α) (k : α → Nat → Option (Step β)) (l : β → Nat → Option (Step γ)) :
    ((step.followedBy k).bind fun step' => step'.followedBy l)
      = step.followedBy fun v next => (k v next).bind fun step' => step'.followedBy l := by
  cases step with
  | success v next seen =>
    show ((k v next).map (aggregate seen)).bind _ = ((k v next).bind _).map (aggregate seen)
    cases k v next with
    | none => rfl
    | some step' => exact followedBy_aggregate seen step' l
  | fail q w => rfl
  | error e => rfl

theorem map_followedBy (f : β → γ) (step : Step α) (k : α → Nat → Option (Step β)) :
    (step.followedBy k).map (map f) = step.followedBy fun v next => (k v next).map (map f) := by
  cases step with
  | success v next seen =>
    show ((k v next).map (aggregate seen)).map (map f) = ((k v next).map (map f)).map (aggregate seen)
    cases k v next with
    | none => rfl
    | some step' => exact congrArg some (map_aggregate f seen step')
  | fail q w => rfl
  | error e => rfl

/-- Whether the following run looks at the value does not show in the outline of the step. -/
theorem outline_followedBy (step : Step α) (k : Nat → Option (Step β)) :
    (step.followedBy fun _ next => k next) = step.outline.followedBy fun _ next => k next := by
  cases step <;> rfl

end Step

/-! ## Parsers -/

namespace Parser

variable (p : Parser Option ι α) (q : Parser Option ι β)

theorem bind_plain (f : α → Parser Option ι β) (s : Stream ι) (pos : Nat) :
    bind p f s pos = (p s pos).bind fun step => step.followedBy fun v next => f v s next := by
  unfold bind
  rw [run_plain]
  show (p s pos).bind _ = (p s pos).bind _
  congr 1
  funext step
  cases step with
  | success v next seen =>
    simp only [run_plain]
    show (f v s next).bind _ = (f v s next).map _
    cases f v s next <;> rfl
  | fail q w => rfl
  | error e => rfl

theorem map_plain (f : α → β) (s : Stream ι) (pos : Nat) : map f p s pos = (p s pos).map (Step.map f) := by
  unfold map
  rw [run_plain]
  cases p s pos <;> rfl

theorem thenCombine_plain (f : α → β → γ) (s : Stream ι) (pos : Nat) :
    thenCombine f p q s pos
      = (p s pos).bind fun step => step.followedBy fun v next => (q s next).map (Step.map (f v)) := by
  unfold thenCombine
  rw [run_plain]
  show (p s pos).bind _ = (p s pos).bind _
  congr 1
  funext step
  cases step with
  | success v next seen =>
    simp only [run_plain]
    show (q s next).bind _ = ((q s next).map (Step.map (f v))).map (Step.aggregate seen)
    cases q s next with
    | none => rfl
    | some step' => exact congrArg some (Step.map_aggregate (f v) seen step')
  | fail r w => rfl
  | error e => rfl

theorem bind_assoc (f : α → Parser Option ι β) (g : β → Parser Option ι γ) :
    bind (bind p f) g = bind p fun v => bind (f v) g := by
  funext s pos
  rw [bind_plain, bind_plain, bind_plain]
  cases p s pos with
  | none => rfl
  | some step =>
    show (step.followedBy fun v next => f v s next).bind _ = step.followedBy _
    rw [Step.followedBy_assoc]
    congr 1
    funext v next
    rw [bind_plain]

theorem thenCombine_eq_bind (f : α → β → γ) : thenCombine f p q = bind p fun v => map (f v) q := by
  funext s pos
  rw [thenCombine_plain, bind_plain]
  congr 1
  funext step
  congr 1
  funext v next
  rw [map_plain]

end Parser

theorem Declarations.runAt_map [DecidableEq ι] {d : Declarations ι Γ} {budget : Nat} {s : Stream ι} {pos : Nat}
    (f : α → β) (g : Grammar ι Γ α) :
    (d.runAt budget (.map f g) s pos : Option (Step β)) = (d.runAt budget g s pos : Option (Step α)).map (Step.map f) := by
  rw [runAt, runAt, Parser.run_plain, Parser.run_plain, parser, Grammar.parser, Parser.map_plain]
  rfl

/-! ## Chains -/

namespace Grammar

/-- A grammar that runs these parts in a row, in some grouping and with any functions that combine their values. -/
inductive Chains : List (Σ α : Type, Grammar ι Γ α) → {α : Type} → Grammar ι Γ α → Prop
  | part {α : Type} (g : Grammar ι Γ α) : Chains [⟨α, g⟩] g
  | join {ps qs : List (Σ α : Type, Grammar ι Γ α)} {α β γ : Type} (f : α → β → γ) {g : Grammar ι Γ α}
      {h : Grammar ι Γ β} (hg : Chains ps g) (hh : Chains qs h) : Chains (ps ++ qs) (thenCombine f g h)

section Outlines

variable [DecidableEq ι] (budget : Nat) (refs : (slot : Nat) → Parser Option ι (Γ slot)) (s : Stream ι)

/-- The outline that a plain run of a grammar comes back with. -/
def outlineAt (g : Grammar ι Γ α) (pos : Nat) : Option (Step Unit) := (g.parser budget refs s pos).map Step.outline

/-- The outline that parts in a row come back with, after one another. -/
def rowOutline : List (Σ α : Type, Grammar ι Γ α) → Nat → Option (Step Unit)
  | [], pos => some (.done () pos)
  | p :: ps, pos => (outlineAt budget refs s p.2 pos).bind fun step => step.followedBy fun _ next => rowOutline ps next

theorem rowOutline_append (ps qs : List (Σ α : Type, Grammar ι Γ α)) (pos : Nat) :
    rowOutline budget refs s (ps ++ qs) pos
      = (rowOutline budget refs s ps pos).bind fun step =>
          step.followedBy fun _ next => rowOutline budget refs s qs next := by
  induction ps generalizing pos with
  | nil => exact (Step.followedBy_done () pos fun _ next => rowOutline budget refs s qs next).symm
  | cons p ps ih =>
    rw [List.cons_append, rowOutline, rowOutline]
    cases outlineAt budget refs s p.2 pos with
    | none => rfl
    | some step =>
      show step.followedBy _ = (step.followedBy _).bind _
      rw [Step.followedBy_assoc]
      congr 1
      funext v next
      exact ih next

theorem outlineAt_thenCombine (f : α → β → γ) (g : Grammar ι Γ α) (h : Grammar ι Γ β) (pos : Nat) :
    outlineAt budget refs s (thenCombine f g h) pos
      = (outlineAt budget refs s g pos).bind fun step =>
          step.followedBy fun _ next => outlineAt budget refs s h next := by
  unfold outlineAt
  rw [parser, Parser.thenCombine_plain]
  cases g.parser budget refs s pos with
  | none => rfl
  | some step =>
    show (step.followedBy fun v next => (h.parser budget refs s next).map (Step.map (f v))).map (Step.map fun _ => ())
      = step.outline.followedBy fun _ next => (h.parser budget refs s next).map Step.outline
    rw [Step.map_followedBy, ← Step.outline_followedBy]
    congr 1
    funext v next
    rw [Option.map_map]
    congr 1
    funext step'
    exact Step.outline_map (f v) step'

theorem outline_chains {ps : List (Σ α : Type, Grammar ι Γ α)} {g : Grammar ι Γ α} (hg : Chains ps g) (pos : Nat) :
    outlineAt budget refs s g pos = rowOutline budget refs s ps pos := by
  induction hg generalizing pos with
  | part g =>
    rw [rowOutline]
    cases outlineAt budget refs s g pos with
    | none => rfl
    | some step => exact (Step.followedBy_succeed step).symm
  | join f _ _ ihg ihh =>
    rw [outlineAt_thenCombine, rowOutline_append, ihg]
    congr 1
    funext step
    congr 1
    funext _ next
    exact ihh next

end Outlines

end Grammar

/-! ## The laws -/

section Laws

variable [DecidableEq ι] (budget : Nat) (refs : (slot : Nat) → Parser Option ι (Γ slot))

theorem Grammar.parser_succeed (v : α) (s : Stream ι) (pos : Nat) :
    (Grammar.succeed v : Grammar ι Γ α).parser budget refs s pos = some (.done v pos) :=
  Grammar.parser_leaf (.succeed v) budget refs s pos

theorem Grammar.parser_succeed_bind (v : α) (f : α → Grammar ι Γ β) :
    (Grammar.bind (.succeed v) f).parser budget refs = (f v).parser budget refs := by
  funext s pos
  rw [parser, Parser.bind_plain, parser_succeed, Option.bind_some, Step.followedBy_done]

theorem Grammar.parser_bind_succeed (g : Grammar ι Γ α) :
    (Grammar.bind g .succeed).parser budget refs = g.parser budget refs := by
  funext s pos
  rw [parser, Parser.bind_plain]
  cases g.parser budget refs s pos with
  | none => rfl
  | some step =>
    rw [Option.bind_some]
    simp only [parser_succeed]
    exact Step.followedBy_succeed step

/-- **`bind` is a monad on whole steps.** A value that is bound at once, a value that is only passed on, and binding in
either grouping come to the same steps; `thenCombine` is made of `bind`; and grammars with the same parts in a row end or
fail at the same offset with the same witness. -/
theorem bind_laws :
    (∀ (v : α) (f : α → Grammar ι Γ β),
      (Grammar.bind (.succeed v) f).parser budget refs = (f v).parser budget refs) ∧
    (∀ g : Grammar ι Γ α, (Grammar.bind g .succeed).parser budget refs = g.parser budget refs) ∧
    (∀ (g : Grammar ι Γ α) (f : α → Grammar ι Γ β) (h : β → Grammar ι Γ γ),
      (Grammar.bind (.bind g f) h).parser budget refs = (Grammar.bind g fun v => .bind (f v) h).parser budget refs) ∧
    (∀ (c : α → β → γ) (g : Grammar ι Γ α) (h : Grammar ι Γ β),
      (Grammar.thenCombine c g h).parser budget refs = (Grammar.bind g fun l => .map (c l) h).parser budget refs) ∧
    ∀ (ps : List (Σ α : Type, Grammar ι Γ α)) (g : Grammar ι Γ α) (h : Grammar ι Γ β), g.Chains ps → h.Chains ps →
      ∀ s pos, (g.parser budget refs s pos).map Step.outline = (h.parser budget refs s pos).map Step.outline := by
  refine ⟨Grammar.parser_succeed_bind budget refs, Grammar.parser_bind_succeed budget refs, fun g f h => ?_,
    fun c g h => ?_, fun ps g h hg hh s pos => ?_⟩
  · exact Parser.bind_assoc _ _ _
  · exact Parser.thenCombine_eq_bind _ _ c
  · have hleft := Grammar.outline_chains budget refs s hg pos
    have hright := Grammar.outline_chains budget refs s hh pos
    exact hleft.trans hright.symm

end Laws

namespace Grammar

/-- Three letters, of which the first two are grouped. -/
def lettersLeft : Grammar Char (fun _ => String) String := append (andThen (literal "a") (literal "b")) (literal "c")

def lettersRight : Grammar Char (fun _ => String) (String × String) := zip (literal "a") (skip (literal "b") (literal "c"))

def letters : List (Σ α : Type, Grammar Char (fun _ => String) α) :=
  [⟨String, literal "a"⟩, ⟨String, literal "b"⟩, ⟨String, literal "c"⟩]

theorem chains_lettersLeft : lettersLeft.Chains letters := by
  have hpair : Chains [⟨String, literal "a"⟩, ⟨String, literal "b"⟩]
      (andThen (literal "a") (literal "b") : Grammar Char (fun _ => String) String) :=
    .join _ (.part (literal "a")) (.part (literal "b"))
  exact .join _ hpair (.part (literal "c"))

theorem chains_lettersRight : lettersRight.Chains letters :=
  .join _ (.part (literal "a")) (.join _ (.part (literal "b")) (.part (literal "c")))

end Grammar

/-- In either grouping the third letter is what is missing. -/
theorem bind_laws_letters :
    Grammar.lettersLeft.Chains Grammar.letters ∧ Grammar.lettersRight.Chains Grammar.letters ∧
    (Grammar.lettersLeft.parser 1 (fun _ _ _ => none) (.ofString "abx") 0).map Step.outline
      = (Grammar.lettersRight.parser 1 (fun _ _ _ => none) (.ofString "abx") 0).map Step.outline ∧
    (Grammar.lettersRight.parser 1 (fun _ _ _ => none) (.ofString "abx") 0).map Step.outline
      = some (.fail 2 ⟨2, .single "c"⟩) := by
  have hlaws := bind_laws (α := String) (β := String × String) (γ := Unit) (ι := Char) (Γ := fun _ => String) 1
    fun _ _ _ => none
  exact ⟨Grammar.chains_lettersLeft, Grammar.chains_lettersRight,
    hlaws.2.2.2.2 _ _ _ Grammar.chains_lettersLeft Grammar.chains_lettersRight _ _, by decide⟩

end Descent
