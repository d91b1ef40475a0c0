import Descent.Grammar.Text
import Descent.Proofs.Outcome
import Descent.Proofs.Regrouping

/-!
# Parses of whole streams

A parse of a whole stream puts the end behind the grammar. A failure and an error are those of the parse of its start.
A value is that of the parse of the start, too, when nothing is left behind it; otherwise the end is missed where the
value ends, and this failure is weighed against the witness of the value: the deeper of the two is reported, or both
(`unread`).
-/

namespace Descent

variable {ι : Type} [Item ι] {Γ : Nat → Type} {α : Type}

theorem Stream.isEmpty_dropTo {s : Stream ι} {pos : Nat} (h : s.isBoundary pos = true) :
    (s.dropTo pos).isEmpty = true ↔ s.length ≤ pos := by
  obtain ⟨u, hitems, rfl⟩ := split_dropTo h
  have hlength : s.length = extent u + (s.dropTo (extent u)).length := by
    rw [length_eq_extent, length_eq_extent, ← extent_append, ← hitems]
  rw [isEmpty, beq_iff_eq]
  omega

/-! ## What is reported where something is left -/

/-- What is reported where a value ends at `next` and something is left behind it: that the end is missing, or the
witness of the value, whichever is deeper, and both at one offset. -/
def unread (next : Nat) : Option Furthest → Furthest
  | none => ⟨next, .single "EOF"⟩
  | some w =>
    if w.pos < next then ⟨next, .single "EOF"⟩
    else if w.pos = next then ⟨next, w.expected.insert "EOF"⟩
    else w

theorem absorb_eof (next : Nat) (w : Option Furthest) : (Furthest.of next "EOF").absorb w = unread next w := by
  cases w with
  | none => rfl
  | some w =>
    refine Furthest.ext_mem ?_ fun z => ?_
    · rw [Furthest.pos_absorb, unread, Furthest.of]
      split_ifs with hlt heq
      · exact max_eq_left (le_of_lt hlt)
      · exact max_eq_left (le_of_eq heq)
      · exact max_eq_right (Nat.not_lt.1 hlt)
    · rw [Furthest.mem_absorb, unread, Furthest.of]
      split_ifs with hlt heq
      · simp [le_of_lt hlt, Nat.not_le.2 hlt]
      · simp [heq, Expected.mem_insert]
      · have hgt : next < w.pos := by omega
        simp [le_of_lt hgt, Nat.not_le.2 hgt]

theorem pos_unread (next : Nat) (w : Option Furthest) : (unread next w).pos = w.elim next fun f => max next f.pos := by
  rw [← absorb_eof]
  cases w with
  | none => rfl
  | some w => exact Furthest.pos_absorb _ w

theorem isBoundary_unread {s : Stream ι} {next : Nat} {w : Option Furthest} (hnext : s.isBoundary next = true)
    (hw : ∀ f ∈ w, s.isBoundary f.pos = true) : s.isBoundary (unread next w).pos = true := by
  rw [pos_unread]
  cases w with
  | none => exact hnext
  | some f =>
    rcases max_choice next f.pos with h | h
    · exact (congrArg s.isBoundary h).trans hnext
    · exact (congrArg s.isBoundary h).trans (hw f rfl)

namespace Step

def toEnd (s : Stream ι) : Step α → Step α
  | success v next w => if s.length ≤ next then success v next w else fail next (unread next w)
  | fail q w => fail q w
  | error e => error e

theorem report_toEnd_of_error {s : Stream ι} {step : Step α} {e : Error} (h : step.report s = .error e) :
    (step.toEnd s).report s = .error e := by
  cases step with
  | success v next w => cases h
  | fail q w => exact h
  | error e' => exact h

end Step

namespace Declarations

variable [DecidableEq ι] {d : Declarations ι Γ} {budget : Nat} {g : Grammar ι Γ α} {s : Stream ι}

theorem runAt_skip_eof (pos : Nat) :
    (d.runAt budget (g.skip .eof) s pos : Option (Step α))
      = (d.runAt budget g s pos : Option (Step α)).map (Step.toEnd s) := by
  rw [runAt, runAt, Parser.run_plain, Parser.run_plain]
  show Parser.thenCombine _ (d.parser budget g) (d.parser budget .eof) s pos = _
  rw [Parser.thenCombine_plain]
  cases (d.parser budget g s pos : Option (Step α)) with
  | none => rfl
  | some step =>
    cases step with
    | success v next w =>
      have heof : d.parser budget (.eof : Grammar ι Γ Unit) s next = some (Leaf.eof.step s next) :=
        Grammar.parser_leaf .eof budget _ s next
      simp only [Option.bind_some, Step.followedBy, heof, Leaf.step, Option.map_some, Step.toEnd]
      split_ifs
      · rfl
      · exact congrArg (fun f => some (Step.fail next f)) (absorb_eof next w)
    | fail q w => rfl
    | error e => rfl

theorem parse_eq_toEnd :
    (d.parse budget g s : Option (Except Error α))
      = (d.runAt budget g s 0 : Option (Step α)).map fun step => ((step.toEnd s).report s).map Prod.fst := by
  rw [parse_eq, parsePartial_eq, runAt_skip_eof, Option.map_map, Option.map_map]
  rfl

theorem parse_of_error {e : Error} (h : d.parsePartial budget g s = some (.error e)) :
    d.parse budget g s = some (.error e) := by
  rw [parsePartial_eq] at h
  obtain ⟨step, hrun, hreport⟩ := Option.map_eq_some_iff.1 h
  rw [parse_eq_toEnd, hrun, Option.map_some, Step.report_toEnd_of_error hreport]
  rfl

theorem parse_of_success {v : α} {next : Nat} {w : Option Furthest} {position : Position}
    (hrun : d.runAt budget g s 0 = some (.success v next w))
    (hposition : s.position (unread next w).pos = .ok position) :
    d.parse budget g s
      = some (if s.length ≤ next then .ok v else .error (.parse ⟨position, (unread next w).expected⟩)) := by
  rw [parse_eq_toEnd, hrun, Option.map_some, Step.toEnd]
  split_ifs
  · rfl
  · rw [Step.report, hposition]
    rfl

theorem parse_eq_ok_iff {v : α} :
    d.parse budget g s = some (.ok v) ↔
      ∃ next w, d.runAt budget g s 0 = some (.success v next w) ∧ s.length ≤ next := by
  have hfail (q : Nat) (w : Furthest) : ((Step.fail q w : Step α).report s).map Prod.fst ≠ .ok v := by
    rw [Step.report]
    intro hreport
    cases hplace : s.position w.pos with
    | ok position =>
      rw [hplace] at hreport
      cases hreport
    | error e =>
      rw [hplace] at hreport
      cases hreport
  rw [parse_eq_toEnd]
  cases (d.runAt budget g s 0 : Option (Step α)) with
  | none => simp
  | some step =>
    rw [Option.map_some, Option.some.injEq]
    cases step with
    | success v' next w =>
      rw [Step.toEnd]
      split_ifs with hend
      · constructor
        · intro hreport
          obtain rfl : v' = v := Except.ok.inj hreport
          exact ⟨next, w, rfl, hend⟩
        · rintro ⟨next', w', hrun, -⟩
          obtain ⟨rfl, -⟩ := Step.success.inj (Option.some.inj hrun)
          rfl
      · refine iff_of_false (hfail _ _) ?_
        rintro ⟨next', w', hrun, hend'⟩
        obtain ⟨-, rfl, -⟩ := Step.success.inj (Option.some.inj hrun)
        exact hend hend'
    | fail q w => exact iff_of_false (hfail q w) (by simp)
    | error e =>
      refine iff_of_false (fun herror => ?_) (by simp)
      cases herror

end Declarations

section Whole

variable [DecidableEq ι]

/-- **A parse of a whole stream is a parse of its start that has come to the end.** Where a value of the grammar ends at
a boundary and its witness stands at one, the parse of the start has this value and leaves the rest. The parse of the
whole stream has it exactly if there is no rest, and otherwise reports, at the larger of the two offsets, what is left
unread. An error of the parse of the start is one of the parse of the whole stream. -/
theorem whole_parses_anchored (d : Declarations ι Γ) (budget : Nat) (g : Grammar ι Γ α) (s : Stream ι)
    (hg : ∀ v next w, d.runAt budget g s 0 = some (.success v next w) →
      s.isBoundary next = true ∧ ∀ f ∈ w, s.isBoundary f.pos = true) :
    (∀ v next w, d.runAt budget g s 0 = some (.success v next w) →
      d.parsePartial budget g s = some (.ok (v, s.dropTo next)) ∧
      (d.parse budget g s = some (.ok v) ↔ (s.dropTo next).isEmpty = true) ∧
      ((s.dropTo next).isEmpty = false →
        ∃ position, s.position (w.elim next fun f => max next f.pos) = .ok position ∧
          d.parse budget g s = some (.error (.parse ⟨position, (unread next w).expected⟩)))) ∧
    ∀ e, d.parsePartial budget g s = some (.error e) → d.parse budget g s = some (.error e) := by
  refine ⟨fun v next w hrun => ?_, fun e h => Declarations.parse_of_error h⟩
  obtain ⟨hnext, hw⟩ := hg v next w hrun
  obtain ⟨position, hposition⟩ := Stream.position_eq_ok (isBoundary_unread hnext hw)
  have hempty := Stream.isEmpty_dropTo hnext
  rw [Declarations.parse_of_success hrun hposition, ← pos_unread]
  refine ⟨?_, ?_, fun hleft => ⟨position, hposition, ?_⟩⟩
  · rw [Declarations.parsePartial_eq, hrun]
    rfl
  · rw [hempty]
    split_ifs with hend
    · exact ⟨fun _ => hend, fun _ => rfl⟩
    · exact ⟨nofun, fun h => absurd h hend⟩
  · rw [if_neg fun hend => Bool.false_ne_true (hleft.symm.trans (hempty.2 hend))]

end Whole

def Grammar.pairs : Grammar Char (fun _ => String) (List String) := many (append (literal "a") (literal "b"))

/-- Behind the first pair another one begins, so that what it lacks is reported and not the end. -/
theorem whole_parses_anchored_pairs :
    Declarations.none.runAt 4 Grammar.pairs (.ofString "abac") 0
      = some (.success ["ab"] 2 (some ⟨3, .single "b"⟩) : Step (List String)) ∧
    Declarations.none.parsePartial 4 Grammar.pairs (.ofString "abac") = some (.ok (["ab"], .ofString "ac")) ∧
    Declarations.none.parse 4 Grammar.pairs (.ofString "abac")
      = some (.error (.parse ⟨⟨3, some (0, 3)⟩, .single "b"⟩)) := by
  have hrun : Declarations.none.runAt 4 Grammar.pairs (.ofString "abac") 0
      = some (.success ["ab"] 2 (some ⟨3, .single "b"⟩) : Step (List String)) := by decide
  have hwhole := whole_parses_anchored .none 4 Grammar.pairs (.ofString "abac") fun v next w h => by
    obtain ⟨rfl, rfl, rfl⟩ := Step.success.inj (Option.some.inj (hrun.symm.trans h))
    decide
  obtain ⟨hpartial, -, herror⟩ := hwhole.1 _ _ _ hrun
  obtain ⟨position, hposition, hparse⟩ := herror (by decide)
  have hthree : (Stream.ofString "abac").position 3 = .ok ⟨3, some (0, 3)⟩ := by decide
  obtain rfl : _ = position := Except.ok.inj (hthree.symm.trans hposition)
  exact ⟨hrun, hpartial, hparse⟩

end Descent
