import Descent.Proofs.Regrouping
import Descent.Proofs.Tracking

/-!
# One or another, in any order

On plain runs an alternation is `Step.orElse`, branch by branch: a failure makes room for the next branch, from the same
offset, and its witness is added to what that one comes back with. Witnesses form a semilattice, so it matters neither
how branches are grouped (`orElse_assoc`) nor, as long as they fail, in which order or how often they are tried:
what they come to is the furthest of their witnesses (`fails_of_fails`, `success_of_fails`).

A first part that all branches have in common is run by every one of them, but what it has seen counts once
(`aggregate_orElse_aggregate`). So it can be taken out of the alternation (`left_factoring_exact`).
-/

namespace Descent

variable {ι : Type} [Item ι] {Γ : Nat → Type} {α β γ : Type}

namespace Step

/-- What comes of a step when a failure is followed by another run, from where it began. -/
def orElse (step : Step α) (other : Option (Step α)) : Option (Step α) :=
  match step with
  | fail _ w => other.map (aggregate (some w))
  | success v next w => some (success v next w)
  | error e => some (error e)

theorem orElse_aggregate (seen : Option Furthest) (step : Step α) (other : Option (Step α)) :
    (step.aggregate seen).orElse other = (step.orElse other).map (aggregate seen) := by
  cases step with
  | success v next w => rfl
  | fail q w =>
    show other.map (aggregate (Furthest.merge (some w) seen)) = (other.map (aggregate (some w))).map (aggregate seen)
    rw [map_aggregate_aggregate, Furthest.merge_comm]
  | error e => rfl

theorem orElse_assoc (step : Step α) (other third : Option (Step α)) :
    ((step.orElse other).bind fun step' => step'.orElse third)
      = step.orElse (other.bind fun step' => step'.orElse third) := by
  cases step with
  | success v next w => rfl
  | fail q w =>
    show (other.map (aggregate (some w))).bind _ = (other.bind _).map (aggregate (some w))
    cases other with
    | none => rfl
    | some step' => exact orElse_aggregate (some w) step' third
  | error e => rfl

theorem map_orElse (f : α → β) (step : Step α) (other : Option (Step α)) :
    (step.orElse other).map (map f) = (step.map f).orElse (other.map (map f)) := by
  cases step with
  | success v next w => rfl
  | fail q w =>
    show (other.map (aggregate (some w))).map (map f) = (other.map (map f)).map (aggregate (some w))
    rw [Option.map_map, Option.map_map]
    congr 1
    funext step'
    exact map_aggregate f (some w) step'
  | error e => rfl

/-- A witness that is added to both runs may as well be added to what comes of them: it counts once. -/
theorem aggregate_orElse_aggregate (seen : Option Furthest) (step : Step α) (other : Option (Step α)) :
    (step.aggregate seen).orElse (other.map (aggregate seen)) = (step.orElse other).map (aggregate seen) := by
  rw [orElse_aggregate]
  cases step with
  | success v next w => rfl
  | fail q w =>
    show ((other.map (aggregate seen)).map (aggregate (some w))).map (aggregate seen)
      = (other.map (aggregate (some w))).map (aggregate seen)
    have hseen : Furthest.merge (Furthest.merge seen (some w)) seen = Furthest.merge seen (some w) := by
      rw [Furthest.merge_comm _ seen, ← Furthest.merge_assoc, Furthest.merge_self]
    rw [map_aggregate_aggregate, map_aggregate_aggregate, map_aggregate_aggregate, hseen]
  | error e => rfl

theorem followedBy_orElse (step : Step α) (k l : α → Nat → Option (Step β)) :
    ((step.followedBy k).bind fun step' => step'.orElse (step.followedBy l))
      = step.followedBy fun v next => (k v next).bind fun step' => step'.orElse (l v next) := by
  cases step with
  | success v next seen =>
    show ((k v next).map (aggregate seen)).bind (fun step' => step'.orElse ((l v next).map (aggregate seen)))
      = ((k v next).bind fun step' => step'.orElse (l v next)).map (aggregate seen)
    cases k v next with
    | none => rfl
    | some step' => exact aggregate_orElse_aggregate seen step' (l v next)
  | fail q w => exact congrArg (fun f => some (fail q f)) (Furthest.absorb_self w)
  | error e => rfl

end Step

/-! ## Parsers -/

namespace Parser

variable {p q r : Parser Option ι α} {ps qs : List (Parser Option ι α)}

theorem alt_singleton (p : Parser Option ι α) : alt [p] = p := by
  funext s pos
  rw [alt, altFrom, run_plain]
  cases p s pos with
  | none => rfl
  | some step =>
    simp only [Option.bind_eq_bind, Option.bind_some, Step.aggregate_none]
    cases step <;> rfl

theorem altFrom_eq {s : Stream ι} {pos : Nat} (hps : ps ≠ []) (failedAt : Nat) (seen : Option Furthest) :
    altFrom s pos ps failedAt seen = (alt ps s pos).map (Step.aggregate seen) := by
  induction ps generalizing failedAt seen with
  | nil => exact absurd rfl hps
  | cons p ps ih =>
    rw [alt, altFrom, altFrom, run_plain]
    cases p s pos with
    | none => rfl
    | some step =>
      simp only [Option.bind_eq_bind, Option.bind_some, Step.aggregate_none]
      cases step with
      | success v next w => rfl
      | fail k w =>
        show altFrom s pos ps k (some (w.absorb seen)) = (altFrom s pos ps k (some w)).map (Step.aggregate seen)
        rcases eq_or_ne ps [] with rfl | hrest
        · rfl
        · rw [ih hrest, ih hrest, Step.map_aggregate_aggregate, Furthest.merge_comm, Furthest.merge_some_left]
      | error e => rfl

theorem alt_cons_plain (p : Parser Option ι α) (hps : ps ≠ []) (s : Stream ι) (pos : Nat) :
    alt (p :: ps) s pos = (p s pos).bind fun step => step.orElse (alt ps s pos) := by
  rw [alt, altFrom, run_plain]
  show (p s pos).bind _ = (p s pos).bind _
  congr 1
  funext step
  rw [Step.aggregate_none]
  cases step with
  | success v next w => rfl
  | fail k w => exact altFrom_eq hps k (some w)
  | error e => rfl

theorem alt_pair_plain (p q : Parser Option ι α) (s : Stream ι) (pos : Nat) :
    alt [p, q] s pos = (p s pos).bind fun step => step.orElse (q s pos) := by
  rw [alt_cons_plain p (List.cons_ne_nil q []), alt_singleton]

theorem alt_cons (p : Parser Option ι α) (hps : ps ≠ []) : alt (p :: ps) = alt [p, alt ps] := by
  funext s pos
  rw [alt_cons_plain p hps, alt_pair_plain]

theorem alt_assoc (p q r : Parser Option ι α) : alt [alt [p, q], r] = alt [p, alt [q, r]] := by
  funext s pos
  rw [alt_pair_plain, alt_pair_plain, alt_pair_plain, alt_pair_plain]
  cases p s pos with
  | none => rfl
  | some step => exact Step.orElse_assoc step (q s pos) (r s pos)

theorem alt_append (hps : ps ≠ []) (hqs : qs ≠ []) : alt (ps ++ qs) = alt [alt ps, alt qs] := by
  induction ps with
  | nil => exact absurd rfl hps
  | cons p ps ih =>
    rcases eq_or_ne ps [] with rfl | hrest
    · rw [alt_singleton, List.singleton_append, alt_cons p hqs]
    · calc alt (p :: ps ++ qs)
          = alt [p, alt (ps ++ qs)] := alt_cons p (List.append_ne_nil_of_left_ne_nil hrest qs)
        _ = alt [p, alt [alt ps, alt qs]] := by rw [ih hrest]
        _ = alt [alt [p, alt ps], alt qs] := (alt_assoc p (alt ps) (alt qs)).symm
        _ = alt [alt (p :: ps), alt qs] := by rw [alt_cons p hrest]

theorem map_alt (f : α → β) (ps : List (Parser Option ι α)) : map f (alt ps) = alt (ps.map (map f)) := by
  induction ps with
  | nil => rfl
  | cons p ps ih =>
    rcases eq_or_ne ps [] with rfl | hrest
    · rw [List.map_singleton, alt_singleton, alt_singleton]
    · have hrest' : ps.map (map f) ≠ [] := by simpa using hrest
      funext s pos
      rw [map_plain, alt_cons_plain p hrest, List.map_cons, alt_cons_plain _ hrest', ← ih, map_plain, map_plain]
      cases p s pos with
      | none => rfl
      | some step => exact Step.map_orElse f step (alt ps s pos)

theorem bind_alt (p : Parser Option ι α) (f : α → Parser Option ι β) (fs : List (α → Parser Option ι β)) :
    alt ((f :: fs).map (bind p)) = bind p fun v => alt ((f :: fs).map fun g => g v) := by
  induction fs generalizing f with
  | nil => simp only [List.map_singleton, alt_singleton]
  | cons g fs ih =>
    have hrest : (g :: fs).map (bind p) ≠ [] := List.cons_ne_nil _ _
    have hrest' (v : α) : ((g :: fs).map fun h => h v) ≠ [] := List.cons_ne_nil _ _
    funext s pos
    rw [List.map_cons, alt_cons_plain _ hrest, ih, bind_plain, bind_plain, bind_plain]
    cases p s pos with
    | none => rfl
    | some step =>
      simp only [Option.bind_some]
      rw [Step.followedBy_orElse]
      congr 1
      funext v next
      exact (alt_cons_plain _ (hrest' v) s next).symm

theorem thenCombine_alt (f : α → β → γ) (p : Parser Option ι α) (q : Parser Option ι β)
    (qs : List (Parser Option ι β)) :
    alt ((q :: qs).map (thenCombine f p)) = thenCombine f p (alt (q :: qs)) := by
  have hbind : thenCombine f p = fun r => bind p fun v => map (f v) r := funext fun r => thenCombine_eq_bind p r f
  have hfactor := bind_alt p (fun v => map (f v) q) (qs.map fun r v => map (f v) r)
  rw [hbind]
  simp only [map_alt, List.map_cons, List.map_map] at hfactor ⊢
  exact hfactor

/-! ## Branches that fail -/

def FailsAt (p : Parser Option ι α) (s : Stream ι) (pos : Nat) : Prop := ∃ q w, p s pos = some (.fail q w)

/-- The witnesses that some parsers come back with from an offset. -/
def witnessesAt (s : Stream ι) (pos : Nat) (ps : List (Parser Option ι α)) : List Furthest :=
  ps.filterMap fun p => (p s pos).bind Step.furthest?

variable {s : Stream ι} {pos : Nat}

theorem witnessesAt_append (ps qs : List (Parser Option ι α)) :
    witnessesAt s pos (ps ++ qs) = witnessesAt s pos ps ++ witnessesAt s pos qs := List.filterMap_append

theorem witnessesAt_cons_of_fail {k : Nat} {w : Furthest} (hp : p s pos = some (.fail k w)) :
    witnessesAt s pos (p :: ps) = w :: witnessesAt s pos ps := by
  rw [witnessesAt, List.filterMap_cons, hp]
  rfl

theorem mem_witnessesAt_congr (h : ∀ p, p ∈ ps ↔ p ∈ qs) (f : Furthest) :
    f ∈ witnessesAt s pos ps ↔ f ∈ witnessesAt s pos qs := by
  simp only [witnessesAt, List.mem_filterMap, h]

theorem alt_of_fails (hps : ∀ p ∈ ps, FailsAt p s pos) :
    ∃ w, IsFurthest (witnessesAt s pos ps) w ∧
      ∀ qs : List (Parser Option ι α), qs ≠ [] → alt (ps ++ qs) s pos = (alt qs s pos).map (Step.aggregate w) := by
  induction ps with
  | nil => exact ⟨none, rfl, fun qs _ => (Step.map_aggregate_none (alt qs s pos)).symm⟩
  | cons p ps ih =>
    obtain ⟨k, f, hp⟩ := hps p List.mem_cons_self
    obtain ⟨w, hw, halt⟩ := ih fun p' hp' => hps p' (List.mem_cons_of_mem p hp')
    refine ⟨Furthest.merge (some f) w, ?_, fun qs hqs => ?_⟩
    · rw [witnessesAt_cons_of_fail hp]
      exact (IsFurthest.singleton f).append hw
    · rw [List.cons_append, alt_cons_plain p (List.append_ne_nil_of_right_ne_nil ps hqs), hp, halt qs hqs]
      exact Step.map_aggregate_aggregate (alt qs s pos) w (some f)

theorem fails_of_fails (hne : ps ≠ []) (hps : ∀ p ∈ ps, FailsAt p s pos) :
    ∃ k w, alt ps s pos = some (.fail k w) ∧ IsFurthest (witnessesAt s pos ps) (some w) := by
  -- the last branch is the one whose failure ends the alternation
  obtain ⟨init, last, rfl⟩ : ∃ init last, ps = init ++ [last] :=
    ⟨ps.dropLast, ps.getLast hne, (List.dropLast_concat_getLast hne).symm⟩
  obtain ⟨w, hw, halt⟩ := alt_of_fails fun p hp => hps p (List.mem_append_left [last] hp)
  obtain ⟨k, f, hlast⟩ := hps last List.mem_concat_self
  refine ⟨k, f.absorb w, ?_, ?_⟩
  · rw [halt [last] (List.cons_ne_nil last []), alt_singleton, hlast]
    rfl
  · have hboth := hw.append (IsFurthest.singleton f)
    rw [Furthest.merge_comm] at hboth
    rwa [witnessesAt_append, witnessesAt_cons_of_fail hlast]

theorem fails_of_same (hne : ps ≠ []) (hps : ∀ p ∈ ps, FailsAt p s pos) :
    ∃ w, IsFurthest (witnessesAt s pos ps) (some w) ∧
      ∀ qs : List (Parser Option ι α), (∀ p, p ∈ qs ↔ p ∈ ps) → ∃ k, alt qs s pos = some (.fail k w) := by
  obtain ⟨-, w, -, hw⟩ := fails_of_fails hne hps
  refine ⟨w, hw, fun qs hqs => ?_⟩
  obtain ⟨p, hp⟩ := List.exists_mem_of_ne_nil ps hne
  obtain ⟨k, w', halt, hw'⟩ :=
    fails_of_fails (List.ne_nil_of_mem ((hqs p).2 hp)) fun p' hp' => hps p' ((hqs p').1 hp')
  have hsame : some w' = some w := hw'.unique (hw.congr (mem_witnessesAt_congr fun p' => (hqs p').symm))
  exact ⟨k, by rw [halt, Option.some.inj hsame]⟩

theorem success_of_fails {v : α} {next : Nat} {seen : Option Furthest} (hps : ∀ p ∈ ps, FailsAt p s pos)
    (hp : p s pos = some (.success v next seen)) :
    ∃ w, IsFurthest (witnessesAt s pos (ps ++ [p])) w ∧
      ∀ qs : List (Parser Option ι α), alt (ps ++ p :: qs) s pos = some (.success v next w) := by
  obtain ⟨w, hw, halt⟩ := alt_of_fails hps
  have hfirst (qs : List (Parser Option ι α)) : alt (p :: qs) s pos = some (.success v next seen) := by
    rw [alt, altFrom, run_plain, hp]
    exact congrArg some (Step.aggregate_none _)
  refine ⟨Furthest.merge seen w, ?_, fun qs => ?_⟩
  · have hseen : witnessesAt s pos [p] = seen.toList := by
      rw [witnessesAt, List.filterMap_cons, hp]
      cases seen <;> rfl
    rw [witnessesAt_append, hseen, Furthest.merge_comm]
    exact hw.append (.toList seen)
  · rw [halt (p :: qs) (List.cons_ne_nil p qs), hfirst qs]
    rfl

end Parser

/-! ## The laws -/

namespace Grammar

theorem parser_or {m : Type → Type} [Monitor m] [DecidableEq ι] (budget : Nat)
    (refs : (slot : Nat) → Parser m ι (Γ slot)) (g h : Grammar ι Γ α) :
    (g ||| h).parser budget refs = Parser.alt [g.parser budget refs, h.parser budget refs] :=
  parser_alt budget refs [g, h]

section CommonFirst

variable [DecidableEq ι] (budget : Nat) (refs : (slot : Nat) → Parser Option ι (Γ slot))

theorem parser_alt_thenCombine (f : α → β → γ) (g : Grammar ι Γ α) (h : Grammar ι Γ β) (hs : List (Grammar ι Γ β)) :
    (alt ((h :: hs).map (thenCombine f g))).parser budget refs
      = (thenCombine f g (alt (h :: hs))).parser budget refs := by
  have hfactor :=
    Parser.thenCombine_alt f (g.parser budget refs) (h.parser budget refs) (hs.map (parser budget refs))
  simp only [parser, parser_alt, List.map_cons, List.map_map] at hfactor ⊢
  exact hfactor

theorem parser_alt_bind (g : Grammar ι Γ α) (f : α → Grammar ι Γ β) (fs : List (α → Grammar ι Γ β)) :
    (alt ((f :: fs).map (bind g))).parser budget refs
      = (bind g fun v => alt ((f :: fs).map fun f' => f' v)).parser budget refs := by
  have hfactor := Parser.bind_alt (g.parser budget refs) (fun v => (f v).parser budget refs)
    (fs.map fun f' v => (f' v).parser budget refs)
  simp only [parser, parser_alt, List.map_cons, List.map_map] at hfactor ⊢
  exact hfactor

end CommonFirst

end Grammar

section Laws

variable [DecidableEq ι] (budget : Nat) (refs : (slot : Nat) → Parser Option ι (Γ slot))

/-- **Alternation is associative, and its report does not depend on the order of the branches.** Branches may be grouped
in any way. Where all of them fail, so does every alternation of the same branches, in any order and with any repeats,
and always with the furthest of their witnesses. Where the first of them fail and the next one succeeds, that is what
the alternation comes to, with the furthest of the witnesses so far, whatever branches follow. -/
theorem alternation_laws :
    (∀ a b c : Grammar ι Γ α, ((a ||| b) ||| c).parser budget refs = (a ||| (b ||| c)).parser budget refs) ∧
    (∀ xs ys : List (Grammar ι Γ α), xs ≠ [] → ys ≠ [] →
      (Grammar.alt (xs ++ ys)).parser budget refs = (Grammar.alt xs ||| Grammar.alt ys).parser budget refs) ∧
    (∀ (s : Stream ι) (pos : Nat) (xs : List (Grammar ι Γ α)), (∀ g ∈ xs, (g.parser budget refs).FailsAt s pos) →
      ∃ w, (xs = [] → w = .nothing pos) ∧
        (xs ≠ [] → IsFurthest (Parser.witnessesAt s pos (xs.map (Grammar.parser budget refs))) (some w)) ∧
        ∀ ys : List (Grammar ι Γ α), (∀ g, g ∈ ys ↔ g ∈ xs) →
          ∃ q, (Grammar.alt ys).parser budget refs s pos = some (.fail q w)) ∧
    ∀ (s : Stream ι) (pos : Nat) (xs : List (Grammar ι Γ α)) (g : Grammar ι Γ α) (v : α) (next : Nat)
      (seen : Option Furthest), (∀ h ∈ xs, (h.parser budget refs).FailsAt s pos) →
      g.parser budget refs s pos = some (.success v next seen) →
      ∃ w, IsFurthest (Parser.witnessesAt s pos ((xs ++ [g]).map (Grammar.parser budget refs))) w ∧
        ∀ ys : List (Grammar ι Γ α),
          (Grammar.alt (xs ++ g :: ys)).parser budget refs s pos = some (.success v next w) := by
  refine ⟨fun a b c => ?_, fun xs ys hxs hys => ?_, fun s pos xs hfail => ?_, fun s pos xs g v next seen hfail hg => ?_⟩
  · rw [Grammar.parser_or, Grammar.parser_or, Grammar.parser_or, Grammar.parser_or, Parser.alt_assoc]
  · rw [Grammar.parser_or, Grammar.parser_alt, Grammar.parser_alt, Grammar.parser_alt, List.map_append,
      Parser.alt_append (by simpa using hxs) (by simpa using hys)]
  · rcases eq_or_ne xs [] with rfl | hne
    · refine ⟨.nothing pos, fun _ => rfl, fun h => absurd rfl h, fun ys hys => ⟨pos, ?_⟩⟩
      obtain rfl : ys = [] := List.eq_nil_iff_forall_not_mem.2 fun g hg => List.not_mem_nil ((hys g).1 hg)
      rw [Grammar.parser_alt]
      rfl
    · obtain ⟨w, hw, hsame⟩ := Parser.fails_of_same (by simpa using hne) (List.forall_mem_map.2 hfail)
      refine ⟨w, fun h => absurd h hne, fun _ => hw, fun ys hys => ?_⟩
      rw [Grammar.parser_alt]
      exact hsame _ fun p => by simp only [List.mem_map, hys]
  · rw [List.map_append, List.map_singleton]
    obtain ⟨w, hw, halt⟩ := Parser.success_of_fails (List.forall_mem_map.2 hfail) hg
    refine ⟨w, hw, fun ys => ?_⟩
    rw [Grammar.parser_alt, List.map_append, List.map_cons]
    exact halt _

end Laws

def Grammar.letterPairs : List (Grammar Char (fun _ => String) String) :=
  [literal "x", literal "a" + literal "b", literal "a" + literal "d"]

/-- All three fail on `ac`, two of them behind its first letter, and they report the same from the last to the first.
The first letter alone is read where it comes behind them, whatever else follows. -/
theorem alternation_laws_letters :
    (Grammar.alt (Grammar.letterPairs ++ [.literal "a"])).parser 1 (fun _ _ _ => none)
      = (Grammar.or (.alt Grammar.letterPairs) (.alt [.literal "a"])).parser 1 (fun _ _ _ => none) ∧
    (∀ g ∈ Grammar.letterPairs, (g.parser 1 fun _ _ _ => none).FailsAt (.ofString "ac") 0) ∧
    (∃ q, (Grammar.alt Grammar.letterPairs.reverse).parser 1 (fun _ _ _ => none) (.ofString "ac") 0
      = some (.fail q ⟨1, (Keyed.single "b").insert "d"⟩)) ∧
    ∃ w, ∀ ys : List (Grammar Char (fun _ => String) String),
      (Grammar.alt (Grammar.letterPairs ++ .literal "a" :: ys)).parser 1 (fun _ _ _ => none) (.ofString "ac") 0
        = some (.success "a" 1 w) := by
  have hlaws := alternation_laws (α := String) (ι := Char) (Γ := fun _ => String) 1 fun _ _ _ => none
  have hfails : ∀ g ∈ Grammar.letterPairs, (g.parser 1 fun _ _ _ => none).FailsAt (.ofString "ac") 0 := by
    simp only [Grammar.letterPairs, List.forall_mem_cons]
    exact ⟨⟨0, .of 0 "x", by decide⟩, ⟨1, .of 1 "b", by decide⟩, ⟨1, .of 1 "d", by decide⟩, List.forall_mem_nil _⟩
  obtain ⟨w, -, -, hsame⟩ := hlaws.2.2.1 _ _ _ hfails
  obtain ⟨w', -, hfirst⟩ := hlaws.2.2.2 _ _ _ (.literal "a") "a" 1 none hfails (by decide)
  have hrun : (Grammar.alt Grammar.letterPairs).parser 1 (fun _ _ _ => none) (.ofString "ac") 0
      = some (.fail 1 ⟨1, (Keyed.single "b").insert "d"⟩) := by decide
  obtain ⟨q, hsome⟩ := hsame Grammar.letterPairs fun _ => Iff.rfl
  obtain ⟨-, rfl⟩ := Step.fail.inj (Option.some.inj (hsome.symm.trans hrun))
  exact ⟨hlaws.2.1 _ _ (List.cons_ne_nil _ _) (List.cons_ne_nil _ _), hfails, hsame _ fun _ => List.mem_reverse,
    w', hfirst⟩

section Factoring

variable [DecidableEq ι] (budget : Nat) (refs : (slot : Nat) → Parser Option ι (Γ slot))

/-- **Left factoring is exact.** A first part that all branches of an alternation have in common can be taken out of it:
the steps are the same, with their values, offsets, witnesses and errors. -/
theorem left_factoring_exact :
    (∀ (c : α → β → γ) (p : Grammar ι Γ α) (q r : Grammar ι Γ β),
      (Grammar.thenCombine c p q ||| Grammar.thenCombine c p r).parser budget refs
        = (Grammar.thenCombine c p (q ||| r)).parser budget refs) ∧
    (∀ (c : α → β → γ) (p : Grammar ι Γ α) (q : Grammar ι Γ β) (qs : List (Grammar ι Γ β)),
      (Grammar.alt ((q :: qs).map (Grammar.thenCombine c p))).parser budget refs
        = (Grammar.thenCombine c p (Grammar.alt (q :: qs))).parser budget refs) ∧
    ∀ (p : Grammar ι Γ α) (f : α → Grammar ι Γ β) (fs : List (α → Grammar ι Γ β)),
      (Grammar.alt ((f :: fs).map (Grammar.bind p))).parser budget refs
        = (Grammar.bind p fun v => Grammar.alt ((f :: fs).map fun g => g v)).parser budget refs := by
  exact ⟨fun c p q r => Grammar.parser_alt_thenCombine budget refs c p q [r],
    Grammar.parser_alt_thenCombine budget refs, Grammar.parser_alt_bind budget refs⟩

end Factoring

end Descent
