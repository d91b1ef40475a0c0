import Descent.Grammar.Tuple
import Descent.Proofs.Record
import Descent.Proofs.Regrouping

/-!
# Rows, however they are run

A row of parts is run in three ways, each of which hands offsets and witnesses on by itself: `Parser.seq` pushes the
values to an array, `Parser.tuple` holds them apart until the last one is there, and `Grammar.bindEach` binds each part
in what follows it.

* Under any lawful monad the first two come back with the same step (`seqFrom_eq_tupleListFrom`), and a row is its first
  part and then its second (`seqFrom_append`). So they agree on the events of a recorded run as well.
* The third runs more parsers than the others, one for each function that it binds, but on plain runs it comes back with
  the same step (`parser_bindEach`); so do two rows of which the values are joined (`parser_seq_append`).
* A row that fails or is in error comes back at once: whatever stands behind it is not run (`Preempts`).
-/

namespace Descent

variable {ι : Type} [Item ι] {Γ : Nat → Type} {α β γ : Type}

namespace Step

@[simp] theorem isSuccess_aggregate (w : Option Furthest) (step : Step α) :
    (step.aggregate w).isSuccess = step.isSuccess := by
  cases step <;> rfl

end Step

/-! ## Rows -/

namespace Parser

section Lawful

variable {m : Type → Type} [Monitor m] {s : Stream ι}

section Tuples

variable [DecidableEq ι] (budget : Nat) (refs : (slot : Nat) → Parser m ι (Γ slot))

/-- The rest of a row of parts with one type of values, which are collected in a tuple and then read as a list. -/
def tupleListFrom (s : Stream ι) (gs : List (Grammar ι Γ α)) (pos : Nat) (seen : Option Furthest) :
    m (Step (List α)) := do
  let step ← tupleFrom s ((Parts.ofList gs).parsers budget refs) pos seen
  pure (step.map (Tuple.toList gs.length))

variable [LawfulMonad m]

theorem tupleListFrom_nil (pos : Nat) (seen : Option Furthest) :
    tupleListFrom budget refs s ([] : List (Grammar ι Γ α)) pos seen = pure (.success [] pos seen) :=
  pure_bind _ _

theorem tupleListFrom_cons (g : Grammar ι Γ α) (gs : List (Grammar ι Γ α)) (pos : Nat) (seen : Option Furthest) :
    tupleListFrom budget refs s (g :: gs) pos seen = (do
      match (← run (g.parser budget refs) s pos).aggregate seen with
      | .success v next w => do
        let step ← tupleListFrom budget refs s gs next w
        pure (step.map (v :: ·))
      | .fail q w => pure (.fail q w)
      | .error e => pure (.error e)) := by
  cases gs with
  | nil =>
    show (run (g.parser budget refs) s pos >>= fun step => pure (step.aggregate seen))
      >>= (fun step : Step α => pure (step.map fun v => [v])) = _
    rw [LawfulMonad.bind_assoc]
    congr 1
    funext step
    rw [pure_bind]
    cases step.aggregate seen with
    | success v next w =>
      simp only [tupleListFrom_nil, pure_bind]
      rfl
    | fail q w => rfl
    | error e => rfl
  | cons h gs =>
    let first := g.parser budget refs
    let rest : Parsers m ι (α :: List.replicate gs.length α) := (Parts.ofList (h :: gs)).parsers budget refs
    let read (t : α × Tuple (α :: List.replicate gs.length α)) : List α := t.1 :: Tuple.toList (h :: gs).length t.2
    show tupleFrom s (.cons first rest) pos seen >>= (fun step => pure (step.map read)) = _
    rw [tupleFrom, LawfulMonad.bind_assoc]
    congr 1
    funext step
    cases step.aggregate seen with
    | success v next w =>
      simp only [tupleListFrom, LawfulMonad.bind_assoc, pure_bind]
      refine bind_congr fun step' => congrArg pure ?_
      exact (Step.map_map (Prod.mk v) read step').trans
        (Step.map_map (Tuple.toList (h :: gs).length) (v :: ·) step').symm
    | fail q w => simp [Step.map]
    | error e => simp [Step.map]

theorem seqFrom_eq_tupleListFrom (gs : List (Grammar ι Γ α)) (values : Array α) (pos : Nat) (seen : Option Furthest) :
    seqFrom s (gs.map (Grammar.parser budget refs)) values pos seen
      = (do
        let step ← tupleListFrom budget refs s gs pos seen
        pure (step.map (values.toList ++ ·))) := by
  induction gs generalizing values pos seen with
  | nil =>
    rw [tupleListFrom_nil, pure_bind, List.map_nil, seqFrom, Step.map, List.append_nil]
  | cons g gs ih =>
    rw [tupleListFrom_cons, List.map_cons, seqFrom, LawfulMonad.bind_assoc]
    congr 1
    funext step
    cases step.aggregate seen with
    | success v next w => simp [ih, Step.map_map]
    | fail q w => simp [Step.map]
    | error e => simp [Step.map]

end Tuples

theorem seqFrom_append [LawfulMonad m] (ps qs : List (Parser m ι α)) (values : Array α) (pos : Nat)
    (seen : Option Furthest) :
    seqFrom s (ps ++ qs) values pos seen = (do
      match ← seqFrom s ps values pos seen with
      | .success vs next w => seqFrom s qs vs.toArray next w
      | .fail q w => pure (.fail q w)
      | .error e => pure (.error e)) := by
  induction ps generalizing values pos seen with
  | nil => simp [seqFrom]
  | cons p ps ih =>
    rw [List.cons_append, seqFrom, seqFrom, LawfulMonad.bind_assoc]
    congr 1
    funext step
    cases step.aggregate seen with
    | success v next w => exact ih (values.push v) next w
    | fail q w => simp
    | error e => simp

end Lawful

section Plain

variable {s : Stream ι}

theorem seqFrom_eq (ps : List (Parser Option ι α)) (values : Array α) (pos : Nat) (seen : Option Furthest) :
    seqFrom s ps values pos seen
      = (seq ps s pos).map fun step => (step.map (values.toList ++ ·)).aggregate seen := by
  induction ps generalizing values pos seen with
  | nil => simp [seq, seqFrom, Step.map, Step.aggregate]
  | cons p ps ih =>
    rw [seq, seqFrom, seqFrom, run_plain]
    cases p s pos with
    | none => rfl
    | some step =>
      simp only [Option.bind_eq_bind, Option.bind_some, Step.aggregate_none]
      cases step with
      | success v next w =>
        show seqFrom s ps (values.push v) next (Furthest.merge w seen) = (seqFrom s ps (#[].push v) next w).map _
        rw [ih, ih, Option.map_map]
        congr 1
        funext step'
        simp [Step.map_map, Step.aggregate_aggregate, Furthest.merge_comm w seen]
      | fail q w => rfl
      | error e => rfl

theorem seq_cons (p : Parser Option ι α) (ps : List (Parser Option ι α)) :
    seq (p :: ps) = thenCombine (fun v vs => v :: vs) p (seq ps) := by
  funext s pos
  rw [thenCombine_plain, seq, seqFrom, run_plain]
  cases p s pos with
  | none => rfl
  | some step =>
    simp only [Option.bind_eq_bind, Option.bind_some, Step.aggregate_none]
    cases step with
    | success v next w =>
      show seqFrom s ps (#[].push v) next w = ((seq ps s next).map _).map _
      rw [seqFrom_eq, Option.map_map]
      rfl
    | fail q w => rfl
    | error e => rfl

theorem seq_append (ps qs : List (Parser Option ι α)) :
    seq (ps ++ qs) = thenCombine (fun vs us => vs ++ us) (seq ps) (seq qs) := by
  funext s pos
  rw [thenCombine_plain]
  show seqFrom s (ps ++ qs) #[] pos none = (seq ps s pos).bind _
  rw [seqFrom_append]
  show (seq ps s pos).bind _ = (seq ps s pos).bind _
  congr 1
  funext step
  cases step with
  | success vs next w =>
    show seqFrom s qs vs.toArray next w = ((seq qs s next).map _).map _
    rw [seqFrom_eq, Option.map_map]
    rfl
  | fail q w => rfl
  | error e => rfl

theorem tupleFrom_eq {ts : List Type} (ps : Parsers Option ι ts) (pos : Nat) (seen : Option Furthest) :
    tupleFrom s ps pos seen = (tuple ps s pos).map (Step.aggregate seen) := by
  induction ps generalizing pos seen with
  | nil => rfl
  | cons p rest ih =>
    cases rest with
    | nil =>
      rw [tuple, tupleFrom, tupleFrom, run_plain]
      cases p s pos with
      | none => rfl
      | some step => exact congrArg (fun step' => some (step'.aggregate seen)) (Step.aggregate_none step).symm
    | cons p' rest =>
      rw [tuple, tupleFrom, tupleFrom, run_plain]
      cases p s pos with
      | none => rfl
      | some step =>
        simp only [Option.bind_eq_bind, Option.bind_some, Step.aggregate_none]
        cases step with
        | success v next w =>
          simp only [Step.aggregate_success, ih]
          cases tuple (.cons p' rest) s next with
          | none => rfl
          | some step' =>
            show some ((step'.aggregate (Furthest.merge w seen)).map (Prod.mk v))
              = some (((step'.aggregate w).map (Prod.mk v)).aggregate seen)
            rw [← Step.map_aggregate, Step.aggregate_aggregate, Furthest.merge_comm]
        | fail q w => rfl
        | error e => rfl

theorem tuple_single {t : Type} (p : Parser Option ι t) : tuple (.cons p .nil) = p := by
  funext s pos
  show run p s pos >>= (fun step => pure (step.aggregate none)) = p s pos
  rw [run_plain]
  cases p s pos with
  | none => rfl
  | some step => exact congrArg some (Step.aggregate_none step)

theorem tuple_cons {t u : Type} {ts : List Type} (p : Parser Option ι t) (q : Parser Option ι u)
    (rest : Parsers Option ι ts) :
    tuple (.cons p (.cons q rest)) = thenCombine Prod.mk p (tuple (.cons q rest)) := by
  funext s pos
  rw [thenCombine_plain, tuple, tupleFrom, run_plain]
  cases p s pos with
  | none => rfl
  | some step =>
    simp only [Option.bind_eq_bind, Option.bind_some, Step.aggregate_none]
    cases step with
    | success v next w =>
      simp only [tupleFrom_eq, Step.followedBy]
      cases tuple (.cons q rest) s next with
      | none => rfl
      | some step' => exact congrArg some (Step.map_aggregate (Prod.mk v) w step')
    | fail q w => rfl
    | error e => rfl

end Plain

/-! ## Rows that stop -/

/-- Where the first parser fails or is in error, the second one comes back with the same step after the same events. -/
def Preempts (p q : Parser Recorded ι α) : Prop :=
  ∀ s pos before step after, step.isSuccess = false → p s pos before = some (step, after) →
    q s pos before = some (step, after)

theorem preempts_seq (ps qs : List (Parser Recorded ι α)) : Preempts (seq ps) (seq (ps ++ qs)) := by
  intro s pos before step after hstep hrun
  have hparts := congrFun (seqFrom_append (s := s) ps qs #[] pos none) before
  refine hparts.trans ?_
  show (seq ps s pos before).bind _ = _
  rw [hrun]
  cases step with
  | success vs next w => cases hstep
  | fail q w => rfl
  | error e => rfl

theorem Preempts.run {p q : Parser Recorded ι β} (h : Preempts p q) : Preempts (run p) (run q) := by
  intro s pos before step after hstep hrun
  obtain ⟨⟨step', events⟩, hp, hlast⟩ := Option.bind_eq_some_iff.1 hrun
  obtain ⟨rfl, rfl⟩ := Prod.mk.inj (Option.some.inj hlast)
  exact Option.bind_eq_some_iff.2 ⟨_, h s pos _ step' events hstep hp, rfl⟩

theorem Preempts.bind (p : Parser Recorded ι α) {f g : α → Parser Recorded ι β} (h : ∀ v, Preempts (f v) (g v)) :
    Preempts (bind p f) (bind p g) := by
  intro s pos before step after hstep hrun
  obtain ⟨⟨first, events⟩, hp, hrest⟩ := Option.bind_eq_some_iff.1 hrun
  refine Option.bind_eq_some_iff.2 ⟨_, hp, ?_⟩
  cases first with
  | success v next w =>
    obtain ⟨⟨second, events'⟩, hf, hlast⟩ := Option.bind_eq_some_iff.1 hrest
    obtain ⟨rfl, rfl⟩ := Prod.mk.inj (Option.some.inj hlast)
    rw [Step.isSuccess_aggregate] at hstep
    exact Option.bind_eq_some_iff.2 ⟨_, (h v).run s next _ second events' hstep hf, rfl⟩
  | fail q w => exact hrest
  | error e => exact hrest

end Parser

/-! ## Grammars -/

namespace Grammar

/-- Grammars in a row, each bound in what follows those before it, with their values behind those already there. -/
def bindEach : List (Grammar ι Γ α) → List α → Grammar ι Γ (List α)
  | [], values => succeed values
  | g :: gs, values => bind g fun v => bindEach gs (values ++ [v])

variable [DecidableEq ι]

theorem parser_tupleListFrom {m : Type → Type} [Monitor m] [LawfulMonad m] (budget : Nat)
    (refs : (slot : Nat) → Parser m ι (Γ slot)) (gs : List (Grammar ι Γ α)) (s : Stream ι) (pos : Nat) :
    Parser.tupleListFrom budget refs s gs pos none = (seq gs).parser budget refs s pos := by
  rw [parser_seq, Parser.seq, Parser.seqFrom_eq_tupleListFrom]
  refine (bind_pure _).symm.trans (bind_congr fun step => congrArg pure ?_)
  cases step <;> rfl

section Plain

variable (budget : Nat) (refs : (slot : Nat) → Parser Option ι (Γ slot))

theorem parser_bindEach (gs : List (Grammar ι Γ α)) (values : List α) (s : Stream ι) (pos : Nat) :
    (bindEach gs values).parser budget refs s pos
      = ((seq gs).parser budget refs s pos).map (Step.map (values ++ ·)) := by
  induction gs generalizing values pos with
  | nil =>
    rw [bindEach, parser_succeed, parser_seq]
    simp [Parser.seq, Parser.seqFrom, Step.map, Step.done]
  | cons g gs ih =>
    rw [bindEach, parser, Parser.bind_plain, parser_seq, List.map_cons, Parser.seq_cons, Parser.thenCombine_plain,
      ← parser_seq]
    cases g.parser budget refs s pos with
    | none => rfl
    | some step =>
      simp only [Option.bind_some]
      rw [Step.map_followedBy]
      congr 1
      funext v next
      rw [ih, Option.map_map]
      congr 1
      funext step'
      show step'.map _ = (step'.map _).map _
      rw [Step.map_map]
      simp

theorem parser_tuple {ts : List Type} (parts : Parts ι Γ ts) :
    (tuple parts).parser budget refs = Parser.tuple (parts.parsers budget refs) := by
  induction parts with
  | nil => 
    funext s pos
    exact parser_succeed budget refs () s pos
  | cons g rest ih =>
    cases rest with
    | nil => exact (Parser.tuple_single (g.parser budget refs)).symm
    | cons h rest =>
      show Parser.thenCombine Prod.mk (g.parser budget refs) ((tuple (.cons h rest)).parser budget refs) = _
      rw [ih]
      exact (Parser.tuple_cons _ _ _).symm

theorem parser_seq_append (gs hs : List (Grammar ι Γ α)) :
    (seq (gs ++ hs)).parser budget refs = (seq gs + seq hs).parser budget refs := by
  show _ = Parser.thenCombine (· ++ ·) ((seq gs).parser budget refs) ((seq hs).parser budget refs)
  rw [parser_seq, parser_seq, parser_seq, List.map_append, Parser.seq_append]

theorem parser_tupleList (gs : List (Grammar ι Γ α)) :
    (tupleList gs).parser budget refs = (seq gs).parser budget refs := by
  funext s pos
  rw [tupleList, parser, Parser.map_plain, parser_tuple, ← parser_tupleListFrom]
  exact Option.map_eq_bind

end Plain

section Recorded

variable (budget : Nat) (refs : (slot : Nat) → Parser Recorded ι (Γ slot))

theorem preempts_seq (gs hs : List (Grammar ι Γ α)) :
    ((seq gs).parser budget refs).Preempts ((seq (gs ++ hs)).parser budget refs) := by
  rw [parser_seq, parser_seq, List.map_append]
  exact Parser.preempts_seq _ _

theorem preempts_bindEach (gs hs : List (Grammar ι Γ α)) (values : List α) :
    ((bindEach gs values).parser budget refs).Preempts ((bindEach (gs ++ hs) values).parser budget refs) := by
  induction gs generalizing values with
  | nil =>
    intro s pos before step after hstep hrun
    obtain ⟨rfl, -⟩ := Prod.mk.inj (Option.some.inj hrun)
    cases hstep
  | cons g gs ih => exact .bind _ fun v => ih (values ++ [v])

end Recorded

end Grammar

section Rows

variable [DecidableEq ι] (budget : Nat) (refs : (slot : Nat) → Parser Option ι (Γ slot))
  (watched : (slot : Nat) → Parser Recorded ι (Γ slot))

/-- **Rows agree, however they are run.** A row, a chain of binds that collects the values, and a tuple that is read as
a list come back with the same step; and the row of two lists is the two rows, with their values joined. Recorded runs
of a row and of a tuple agree on the events, too. Where a row or a chain fails or is in error, that is the step of every
longer one, after the same events: nothing that stands behind is run, and there are no values. -/
theorem sequences_agree :
    (∀ gs : List (Grammar ι Γ α),
      (Grammar.seq gs).parser budget refs = (Grammar.bindEach gs []).parser budget refs) ∧
    (∀ gs hs : List (Grammar ι Γ α),
      (Grammar.seq (gs ++ hs)).parser budget refs = (Grammar.seq gs + Grammar.seq hs).parser budget refs) ∧
    (∀ gs : List (Grammar ι Γ α), (Grammar.tupleList gs).parser budget refs = (Grammar.seq gs).parser budget refs) ∧
    (∀ (ts : List Type) (parts : Parts ι Γ ts),
      (Grammar.tuple parts).parser budget refs = Parser.tuple (parts.parsers budget refs)) ∧
    (∀ (gs : List (Grammar ι Γ α)) (s : Stream ι) (pos : Nat),
      Parser.tupleListFrom budget watched s gs pos none = (Grammar.seq gs).parser budget watched s pos) ∧
    (∀ gs hs : List (Grammar ι Γ α),
      ((Grammar.seq gs).parser budget watched).Preempts ((Grammar.seq (gs ++ hs)).parser budget watched)) ∧
    ∀ gs hs : List (Grammar ι Γ α),
      ((Grammar.bindEach gs []).parser budget watched).Preempts
        ((Grammar.bindEach (gs ++ hs) []).parser budget watched) := by
  refine ⟨fun gs => ?_, Grammar.parser_seq_append budget refs, Grammar.parser_tupleList budget refs,
    fun ts parts => Grammar.parser_tuple budget refs parts, Grammar.parser_tupleListFrom budget watched,
    Grammar.preempts_seq budget watched, fun gs hs => Grammar.preempts_bindEach budget watched gs hs []⟩
  funext s pos
  have hnil : (Step.map ([] ++ ·) : Step (List α) → Step (List α)) = id := by
    funext step
    cases step <;> rfl
  rw [Grammar.parser_bindEach, hnil, Option.map_id, id]

end Rows

def Grammar.letterRow : List (Grammar Char (fun _ => Char) Char) := [matchOneDesc 'a' "a", matchOneDesc 'b' "b"]

/-- References of which no run comes back. -/
def Parser.spent (_ : Nat) : Parser Recorded Char Char := fun _ _ => giveUp

/-- The second letter is missed, and the reference behind it is not run. -/
theorem sequences_agree_letters :
    (Grammar.seq Grammar.letterRow).parser 1 Parser.spent (.ofString "ac") 0 #[]
      = some (.fail 1 (.of 1 "b"), #[.started 0, .ended none, .started 1, .failed (.of 1 "b"), .ended none]) ∧
    (Grammar.seq (Grammar.letterRow ++ [.ref 0])).parser 1 Parser.spent (.ofString "ac") 0 #[]
      = some (.fail 1 (.of 1 "b"), #[.started 0, .ended none, .started 1, .failed (.of 1 "b"), .ended none]) := by
  have hrun : (Grammar.seq Grammar.letterRow).parser 1 Parser.spent (.ofString "ac") 0 #[]
      = some (.fail 1 (.of 1 "b"), #[.started 0, .ended none, .started 1, .failed (.of 1 "b"), .ended none]) := by
    decide
  have hagree := sequences_agree (α := Char) 1 (fun _ _ _ => none) Parser.spent
  exact ⟨hrun, hagree.2.2.2.2.2.1 Grammar.letterRow [.ref 0] _ _ _ _ _ rfl hrun⟩

end Descent
