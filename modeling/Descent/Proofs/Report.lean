import Descent.Parse

/-!
# Plain runs and parses

What a plain parse reports is a function of the step from the start of the stream (`parsePartial_eq`), and a parse of a
whole stream is a parse of its start by the grammar with the end behind it (`parse_eq`). A plain run of two grammars in
a row is a run of the second from where the first ended (`runAt_zip`).
-/

namespace Descent

variable {ι : Type} [Item ι] {Γ : Nat → Type} {α β : Type}

/-- What is reported of a step from the start of a stream. -/
def Step.report (s : Stream ι) : Step α → Except Error (α × Stream ι)
  | success v next _ => .ok (v, s.dropTo next)
  | fail _ w =>
    match s.position w.pos with
    | .ok position => .error (.parse ⟨position, w.expected⟩)
    | .error e => .error (.definition e)
  | error e => .error (.definition e)

theorem Parser.run_plain (p : Parser Option ι α) (s : Stream ι) (pos : Nat) : p.run s pos = p s pos := by
  unfold Parser.run
  cases p s pos <;> rfl

theorem Grammar.parser_leaf [DecidableEq ι] (l : Leaf ι α) (budget : Nat)
    (refs : (slot : Nat) → Parser Option ι (Γ slot)) (s : Stream ι) (pos : Nat) :
    (Grammar.leaf l : Grammar ι Γ α).parser budget refs s pos = some (l.step s pos) := by
  rw [parser]
  cases hstep : l.step s pos <;> simp only [hstep] <;> rfl

theorem Declarations.runAt_leaf [DecidableEq ι] (d : Declarations ι Γ) (budget : Nat) (l : Leaf ι α) (s : Stream ι)
    (pos : Nat) : d.runAt budget (.leaf l) s pos = some (l.step s pos) := by
  rw [runAt, Parser.run_plain, parser, Grammar.parser_leaf]

theorem Declarations.runAt_ref [DecidableEq ι] {d : Declarations ι Γ} {n slot : Nat}
    {g : Grammar ι Γ (Γ slot)} (hbody : d.body? slot = some g) {s : Stream ι} {pos : Nat} :
    (d.runAt (n + 1) (.ref slot) s pos : Option (Step (Γ slot))) = (d.runAt n g s pos : Option (Step (Γ slot))) := by
  rw [runAt, Parser.run_plain]
  exact call_succ hbody n

namespace Declarations

variable [DecidableEq ι] (d : Declarations ι Γ) (budget : Nat) (g : Grammar ι Γ α) (s : Stream ι)

theorem parsePartial_eq :
    (d.parsePartial budget g s : Option _) = (d.runAt budget g s 0 : Option (Step α)).map (Step.report s) := by
  unfold parsePartial
  simp only [note_option, Option.bind_eq_bind, Option.bind_some]
  cases (d.runAt budget g s 0 : Option (Step α)) with
  | none => rfl
  | some step =>
    cases step with
    | success v next w => rfl
    | fail q w =>
      simp only [Option.bind_some, Option.map_some, Step.report]
      cases s.position w.pos <;> rfl
    | error e => rfl

theorem success_of_parsePartial {d : Declarations ι Γ} {budget : Nat} {g : Grammar ι Γ α} {s rest : Stream ι} {v : α}
    (h : d.parsePartial budget g s = some (.ok (v, rest))) :
    ∃ next w, d.runAt budget g s 0 = some (.success v next w) ∧ rest = s.dropTo next := by
  rw [parsePartial_eq] at h
  obtain ⟨step, hrun, hreport⟩ := Option.map_eq_some_iff.1 h
  cases step with
  | success v' next w =>
    obtain ⟨rfl, rfl⟩ := Prod.mk.inj (Except.ok.inj hreport)
    exact ⟨next, w, hrun, rfl⟩
  | fail q w =>
    rw [Step.report] at hreport
    split at hreport <;> cases hreport
  | error e => cases hreport

theorem parse_eq :
    (d.parse budget g s : Option _)
      = (d.parsePartial budget (g.skip .eof) s : Option _).map (Except.map Prod.fst) := by
  unfold parse
  cases (d.parsePartial budget (g.skip .eof) s : Option _) <;> rfl

theorem runAt_zip (h : Grammar ι Γ β) (pos : Nat) :
    (d.runAt budget (g.zip h) s pos : Option (Step (α × β)))
      = (d.runAt budget g s pos : Option (Step α)).bind fun
        | .success v next w =>
          (d.runAt budget h s next : Option (Step β)).map fun step => (step.aggregate w).map (Prod.mk v)
        | .fail q w => some (.fail q w)
        | .error e => some (.error e) := by
  rw [runAt, Parser.run_plain]
  change (d.runAt budget g s pos : Option (Step α)).bind _ = _
  refine congrArg _ (funext fun step => ?_)
  cases step with
  | success v next w =>
    change (d.runAt budget h s next : Option (Step β)).bind _ = (d.runAt budget h s next : Option (Step β)).map _
    cases (d.runAt budget h s next : Option (Step β)) <;> rfl
  | fail q w => rfl
  | error e => rfl

end Declarations

end Descent
