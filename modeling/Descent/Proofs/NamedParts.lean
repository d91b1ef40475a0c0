import Descent.Grammar.Named
import Descent.Proofs.Collection
import Descent.Proofs.Sequences
import Mathlib.Data.List.Induction

/-!
# Named parts

A map keeps, of the entries that it is made of, those that no later one has the name of (`Keyed.mem_ofList_iff`). Entries
can be left out before the map is made or after, where that depends on their names alone (`Keyed.ofList_filter`).

A row of tagged parts has the values of the row of its parts, each with its name (`runAt_seq_tag`). So a value is made of
the same named values whether these are tagged values, of which the unwanted ones are left out before the map is made, or
a map, from which they are removed (`named_reducers_agree`).
-/

namespace Descent

/-! ## The last entry of a name -/

namespace Keyed

variable {τ : Type} {key : τ → String}

theorem ofList_concat (xs : List τ) (x : τ) :
    (ofList (xs ++ [x]) : Keyed τ key) = (ofList xs : Keyed τ key).insert x := by
  rw [ofList, ofList, List.foldl_append]
  rfl

theorem mem_ofList_iff {xs : List τ} {x : τ} :
    x ∈ (ofList xs : Keyed τ key) ↔
      ∃ i : Nat, xs[i]? = some x ∧ ∀ j y, i < j → xs[j]? = some y → key y ≠ key x := by
  induction xs using List.reverseRecOn with
  | nil => simp [ofList]
  | append_singleton xs z ih =>
    have hget (j : Nat) (y : τ) : (xs ++ [z])[j]? = some y ↔ xs[j]? = some y ∨ j = xs.length ∧ y = z := by
      grind
    rw [ofList_concat, mem_insert, ih]
    simp only [hget]
    constructor
    · rintro (rfl | ⟨⟨i, hi, hlast⟩, hkey⟩)
      · refine ⟨xs.length, .inr ⟨rfl, rfl⟩, ?_⟩
        rintro j y hj (hy | ⟨rfl, -⟩)
        · have hlt := (List.getElem?_eq_some_iff.1 hy).1
          omega
        · exact absurd hj (Nat.lt_irrefl _)
      · refine ⟨i, .inl hi, ?_⟩
        rintro j y hj (hy | ⟨rfl, rfl⟩)
        · exact hlast j y hj hy
        · exact Ne.symm hkey
    · rintro ⟨i, hi | ⟨rfl, rfl⟩, hlast⟩
      · have hlt := (List.getElem?_eq_some_iff.1 hi).1
        have hkey := hlast xs.length z hlt (.inr ⟨rfl, rfl⟩)
        exact .inr ⟨⟨i, hi, fun j y hj hy => hlast j y hj (.inl hy)⟩, Ne.symm hkey⟩
      · exact .inl rfl

theorem ofList_filter {keep : τ → Bool} (hkeep : ∀ x y, key x = key y → keep x = keep y) (xs : List τ) :
    (ofList (xs.filter keep) : Keyed τ key) = (ofList xs).filter keep := by
  induction xs using List.reverseRecOn with
  | nil => rfl
  | append_singleton xs z ih =>
    refine ext fun x => ?_
    rw [List.filter_append, mem_filter, ofList_concat, mem_insert]
    cases hz : keep z with
    | true =>
      rw [List.filter_cons_of_pos hz, List.filter_nil, ofList_concat, mem_insert, ih, mem_filter]
      constructor
      · rintro (rfl | ⟨⟨hx, hkept⟩, hkey⟩)
        · exact ⟨.inl rfl, hz⟩
        · exact ⟨.inr ⟨hx, hkey⟩, hkept⟩
      · rintro ⟨rfl | ⟨hx, hkey⟩, hkept⟩
        · exact .inl rfl
        · exact .inr ⟨⟨hx, hkept⟩, hkey⟩
    | false =>
      rw [List.filter_cons_of_neg (Bool.eq_false_iff.1 hz), List.filter_nil, List.append_nil, ih, mem_filter]
      constructor
      · rintro ⟨hx, hkept⟩
        have hkey : key x ≠ key z := by
          intro h
          rw [hkeep x z h, hz] at hkept
          cases hkept
        exact ⟨.inr ⟨hx, hkey⟩, hkept⟩
      · rintro ⟨rfl | ⟨hx, -⟩, hkept⟩
        · rw [hz] at hkept
          cases hkept
        · exact ⟨hx, hkept⟩

end Keyed

variable {ι : Type} [Item ι] {Γ : Nat → Type} {α β : Type}

/-! ## Rows of tagged parts -/

theorem Step.followedBy_map {γ : Type} (f : α → β) (step : Step α) (k : β → Nat → Option (Step γ)) :
    (step.map f).followedBy k = step.followedBy fun v next => k (f v) next := by
  cases step <;> rfl

namespace Parser

theorem seq_tag (parts : List (String × Parser Option ι α)) (s : Stream ι) (pos : Nat) :
    seq (parts.map fun p => map (Prod.mk p.1) p.2) s pos
      = (seq (parts.map Prod.snd) s pos).map (Step.map ((parts.map Prod.fst).zip ·)) := by
  induction parts generalizing pos with
  | nil => rfl
  | cons p parts ih =>
    simp only [List.map_cons, seq_cons, thenCombine_plain, map_plain, Option.map_bind, Option.bind_map]
    congr 1
    funext step
    rw [Function.comp_apply, Function.comp_apply, Step.followedBy_map, Step.map_followedBy]
    congr 1
    funext v next
    rw [ih, Option.map_map, Option.map_map]
    congr 1
    funext step'
    rw [Function.comp_apply, Function.comp_apply, Step.map_map, Step.map_map]
    rfl

theorem gives_seq_length (ps : List (Parser Option ι α)) (s : Stream ι) (pos : Nat) :
    Gives (seq ps) s pos fun vs _ => vs.length = ps.length := by
  induction ps generalizing pos with
  | nil =>
    intro step hstep
    obtain rfl := Option.some.inj hstep
    rfl
  | cons p ps ih =>
    rw [seq_cons]
    refine Gives.thenCombine _ ((gives_true p s pos).mono ?_)
    intro v next _
    refine (ih next).mono ?_
    intro vs stop hlength
    rw [List.length_cons, List.length_cons, hlength]

end Parser

section Grammars

variable [DecidableEq ι] {d : Declarations ι Γ} {budget : Nat} {s : Stream ι} {pos : Nat}

theorem runAt_seq_tag (parts : List (String × Grammar ι Γ α)) :
    (d.runAt budget (.seq (parts.map fun p => .tag p.1 p.2)) s pos : Option (Step (List (String × α))))
      = (d.runAt budget (.seq (parts.map Prod.snd)) s pos : Option (Step (List α))).map
          (Step.map ((parts.map Prod.fst).zip ·)) := by
  have htagged := Parser.seq_tag (parts.map fun p => (p.1, d.parser budget p.2)) s pos
  simp only [List.map_map, Function.comp_def] at htagged
  rw [Declarations.runAt, Declarations.runAt, Parser.run_plain, Parser.run_plain, Declarations.parser,
    Declarations.parser, Grammar.parser_seq, Grammar.parser_seq, List.map_map, List.map_map]
  exact htagged

theorem length_of_runAt_seq {gs : List (Grammar ι Γ α)} {vs : List α} {next : Nat} {w : Option Furthest}
    (hrun : d.runAt budget (.seq gs) s pos = some (.success vs next w)) : vs.length = gs.length := by
  rw [Declarations.runAt, Parser.run_plain, Declarations.parser, Grammar.parser_seq] at hrun
  have hlength := Parser.gives_seq_length _ s pos _ hrun
  rwa [List.length_map] at hlength

end Grammars

/-! ## Names that count -/

theorem Grammar.isNoise_eq_true_iff (name : String) :
    Grammar.isNoise name = true ↔ name = "" ∨ ∃ rest, name = "_" ++ rest := by
  rw [isNoise]
  split
  next h =>
    have hempty : name = "" := String.toList_inj.1 h
    exact iff_of_true rfl (.inl hempty)
  next c cs h =>
    rw [beq_iff_eq]
    constructor
    · rintro rfl
      exact .inr ⟨String.ofList cs, String.toList_inj.1 (by simp [h])⟩
    · rintro (rfl | ⟨rest, rfl⟩)
      · cases h
      · rw [String.toList_append] at h
        exact (List.cons.inj h).1.symm

/-- The values under the names that count; of those under one name the last. -/
def namedValues (names : List String) (vs : List α) : NameMap α :=
  NameMap.ofEntries ((names.zip vs).filter fun e => !Grammar.isNoise e.1)

theorem namedValues_eq (names : List String) (vs : List α) :
    namedValues names vs = (NameMap.ofEntries (names.zip vs)).filter fun e => !Grammar.isNoise e.1 :=
  Keyed.ofList_filter (fun _ _ h => congrArg (fun name => !Grammar.isNoise name) h) _

theorem get?_namedValues {names : List String} {vs : List α} (hlength : vs.length = names.length) {name : String}
    {v : α} :
    NameMap.get? (namedValues names vs) name = some v ↔
      (name ≠ "" ∧ ∀ rest, name ≠ "_" ++ rest) ∧
        ∃ i : Nat, names[i]? = some name ∧ vs[i]? = some v ∧ ∀ j, i < j → names[j]? ≠ some name := by
  have hcounts : (!Grammar.isNoise name) = true ↔ name ≠ "" ∧ ∀ rest, name ≠ "_" ++ rest := by
    rw [Bool.not_eq_true', ← Bool.not_eq_true, Grammar.isNoise_eq_true_iff, not_or, not_exists]
  have hentry (j : Nat) (e : String × α) : (names.zip vs)[j]? = some e ↔ names[j]? = some e.1 ∧ vs[j]? = some e.2 :=
    List.getElem?_zip_eq_some
  rw [NameMap.get?_eq_some_iff, namedValues_eq, Keyed.mem_filter, hcounts, and_comm, NameMap.ofEntries,
    Keyed.mem_ofList_iff]
  refine and_congr_right fun _ => exists_congr fun i => ?_
  rw [hentry, and_assoc]
  refine and_congr_right fun _ => and_congr_right fun _ => ?_
  constructor
  · intro hlast j hj hname
    have hlt : j < vs.length := by
      rw [hlength]
      exact (List.getElem?_eq_some_iff.1 hname).1
    exact hlast j (name, vs[j]) hj ((hentry j _).2 ⟨hname, List.getElem?_eq_getElem hlt⟩) rfl
  · rintro hlast j ⟨name', v'⟩ hj he rfl
    exact hlast j hj ((hentry j _).1 he).1

/-! ## The two ways -/

section Reducers

variable [DecidableEq ι] (d : Declarations ι Γ) (budget : Nat) (parts : List (String × Grammar ι Γ α))
  (make : NameMap α → β) (s : Stream ι) (pos : Nat)

theorem runAt_combineTagged :
    (d.runAt budget (.combineTagged make (.seq (parts.map fun p => .tag p.1 p.2))) s pos : Option (Step β))
      = (d.runAt budget (.seq (parts.map Prod.snd)) s pos : Option (Step (List α))).map
          (Step.map fun vs => make (namedValues (parts.map Prod.fst) vs)) := by
  rw [Grammar.combineTagged, Declarations.runAt_map, runAt_seq_tag, Option.map_map]
  congr 1
  funext step
  exact Step.map_map _ _ step

theorem runAt_combineNamed :
    (d.runAt budget (.combineNamed make (.seqNamed parts)) s pos : Option (Step β))
      = (d.runAt budget (.seq (parts.map Prod.snd)) s pos : Option (Step (List α))).map
          (Step.map fun vs => make (namedValues (parts.map Prod.fst) vs)) := by
  rw [Grammar.combineNamed, Grammar.seqNamed, Grammar.toMap, Declarations.runAt_map, Declarations.runAt_map,
    runAt_seq_tag, Option.map_map, Option.map_map]
  congr 1
  funext step
  simp only [Function.comp_apply, Step.map_map, namedValues_eq]

/-- **Named values come to the same, tagged or in a map.** Both ways come back with the step of the row of the parts, and
what a value is made of is the map in which each name that is neither empty nor starts with an underscore has the value
of the last part under it, and no other name has one. -/
theorem named_reducers_agree :
    (d.runAt budget (.combineTagged make (.seq (parts.map fun p => .tag p.1 p.2))) s pos : Option (Step β))
      = d.runAt budget (.combineNamed make (.seqNamed parts)) s pos ∧
    (d.runAt budget (.combineNamed make (.seqNamed parts)) s pos : Option (Step β))
      = (d.runAt budget (.seq (parts.map Prod.snd)) s pos : Option (Step (List α))).map
          (Step.map fun vs => make (namedValues (parts.map Prod.fst) vs)) ∧
    ∀ vs next w, d.runAt budget (.seq (parts.map Prod.snd)) s pos = some (.success vs next w) →
      vs.length = parts.length ∧
      ∀ name v, NameMap.get? (namedValues (parts.map Prod.fst) vs) name = some v ↔
        (name ≠ "" ∧ ∀ rest, name ≠ "_" ++ rest) ∧
          ∃ i : Nat, (parts.map Prod.fst)[i]? = some name ∧ vs[i]? = some v ∧
            ∀ j, i < j → (parts.map Prod.fst)[j]? ≠ some name := by
  have htagged := runAt_combineTagged d budget parts make s pos
  have hnamed := runAt_combineNamed d budget parts make s pos
  refine ⟨htagged.trans hnamed.symm, hnamed, ?_⟩
  intro vs next w hrun
  have hlength := length_of_runAt_seq hrun
  rw [List.length_map] at hlength
  refine ⟨hlength, fun name v => get?_namedValues ?_⟩
  rw [hlength, List.length_map]

end Reducers

/-- Four letters, two of them under names that do not count, and two under one name. -/
def Grammar.lettersByName : List (String × Grammar Char (fun _ => String) String) :=
  [("letter", literal "a"), ("_", literal "b"), ("letter", literal "c"), ("", literal "d")]

/-- The name that counts has its last value, and a name that starts with an underscore has none. -/
theorem named_reducers_agree_letters :
    Declarations.none.runAt 0 (.seq (Grammar.lettersByName.map Prod.snd)) (.ofString "éabcd") 2
      = some (.done ["a", "b", "c", "d"] 6) ∧
    Declarations.none.runAt 0 (.combineTagged (NameMap.get? · "letter")
        (.seq (Grammar.lettersByName.map fun p => .tag p.1 p.2))) (.ofString "éabcd") 2
      = some (.done (some "c") 6) ∧
    Declarations.none.runAt 0 (.combineNamed (NameMap.get? · "_")
        (.seqNamed Grammar.lettersByName)) (.ofString "éabcd") 2
      = some (.done none 6) := by
  have hrun : Declarations.none.runAt 0 (.seq (Grammar.lettersByName.map Prod.snd)) (.ofString "éabcd") 2
      = some (.done ["a", "b", "c", "d"] 6) := by decide
  have hletter := named_reducers_agree .none 0 Grammar.lettersByName (NameMap.get? · "letter") (.ofString "éabcd") 2
  have hnoise := named_reducers_agree .none 0 Grammar.lettersByName (NameMap.get? · "_") (.ofString "éabcd") 2
  have hlast : NameMap.get? (namedValues (Grammar.lettersByName.map Prod.fst) ["a", "b", "c", "d"]) "letter"
      = some "c" := by
    refine ((hletter.2.2 _ _ _ hrun).2 "letter" "c").2 ⟨⟨by decide, fun rest h => ?_⟩, 2, rfl, rfl, fun j hj => ?_⟩
    · have hfirst := congrArg (fun t => t.toList.head?) h
      simp at hfirst
    · match j, hj with
      | 3, _ => decide
      | j + 4, _ => exact nofun
  have hnone : NameMap.get? (namedValues (Grammar.lettersByName.map Prod.fst) ["a", "b", "c", "d"]) "_" = none := by
    refine Option.eq_none_iff_forall_ne_some.2 fun v hv => ?_
    exact (((hnoise.2.2 _ _ _ hrun).2 "_" v).1 hv).1.2 "" rfl
  refine ⟨hrun, ?_, ?_⟩
  · rw [hletter.1, hletter.2.1, hrun]
    exact congrArg (fun v => some (Step.done v 6)) hlast
  · rw [hnoise.2.1, hrun]
    exact congrArg (fun v => some (Step.done v 6)) hnone

end Descent
