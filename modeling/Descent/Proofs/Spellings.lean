import Descent.Proofs.Alternatives
import Descent.Proofs.Literals
import Mathlib.Data.List.Basic

/-!
# Choices among spellings

A choice among spellings tries them in the order of their lengths in bytes, and those of one length in the order in
which they are listed (`byLength_decreasing`, `filter_byLength`). Each of them is read or missed where the choice starts
(`Spells`). So the choice comes to the first one that is read, which is the first of those listed with most bytes
(`Chosen`), and where they are all missed it expects all of them (`Spells.chooses`).
-/

namespace Descent

variable {Γ : Nat → Type} {α β : Type}

/-! ## Longer spellings before shorter ones -/

namespace Grammar

theorem byLength_perm (variants : List (String × α)) : (byLength variants).Perm variants := List.mergeSort_perm _ _

theorem mem_byLength {variants : List (String × α)} {x : String × α} : x ∈ byLength variants ↔ x ∈ variants :=
  (byLength_perm variants).mem_iff

section Sorted

variable (x y z : String × α)

theorem size_le_trans (h : decide (y.1.utf8ByteSize ≤ x.1.utf8ByteSize) = true)
    (h' : decide (z.1.utf8ByteSize ≤ y.1.utf8ByteSize) = true) :
    decide (z.1.utf8ByteSize ≤ x.1.utf8ByteSize) = true := by
  simp only [decide_eq_true_eq] at *
  omega

theorem size_le_total :
    (decide (y.1.utf8ByteSize ≤ x.1.utf8ByteSize) || decide (x.1.utf8ByteSize ≤ y.1.utf8ByteSize)) = true := by
  simp only [Bool.or_eq_true, decide_eq_true_eq]
  omega

end Sorted

theorem byLength_decreasing (variants : List (String × α)) :
    (byLength variants).Pairwise fun x y => y.1.utf8ByteSize ≤ x.1.utf8ByteSize := by
  have hsorted := List.pairwise_mergeSort size_le_trans size_le_total variants
  simpa only [byLength, decide_eq_true_eq] using hsorted

theorem filter_byLength (keep : String × α → Bool) {size : Nat}
    (hkeep : ∀ x, keep x = true → x.1.utf8ByteSize = size) (variants : List (String × α)) :
    (byLength variants).filter keep = variants.filter keep := by
  have hsorted : (variants.filter keep).Pairwise fun x y => decide (y.1.utf8ByteSize ≤ x.1.utf8ByteSize) = true := by
    refine List.pairwise_of_forall_mem_list fun x hx y hy => ?_
    have hx := hkeep x (List.mem_filter.1 hx).2
    have hy := hkeep y (List.mem_filter.1 hy).2
    rw [decide_eq_true_eq, hx, hy]
  have hsub : (variants.filter keep).Sublist (byLength variants) :=
    List.sublist_mergeSort size_le_trans size_le_total hsorted List.filter_sublist
  have hkept := hsub.filter keep
  rw [List.filter_filter, show (fun x => keep x && keep x) = keep from funext fun x => Bool.and_self _] at hkept
  exact (hkept.eq_of_length ((byLength_perm variants).filter keep).length_eq.symm).symm

end Grammar

/-! ## The chosen spelling -/

/-- The spellings that a choice tries before `t`: those with more bytes, and those with as many that are listed before
it. -/
def triedBefore (texts : List String) (t : String) : List String :=
  (texts.filter fun u => t.utf8ByteSize < u.utf8ByteSize) ++
    (texts.filter fun u => u.utf8ByteSize = t.utf8ByteSize).takeWhile (· ≠ t)

section Tried

variable {variants tried rest : List (String × α)} {x : String × α}

/-- Sorting keeps the order of the spellings with as many bytes, so that those before the first `x` are the ones that are
listed before it. -/
theorem takeWhile_tied (hsplit : Grammar.byLength variants = tried ++ x :: rest) (htried : ∀ y ∈ tried, y.1 ≠ x.1) :
    ((variants.map Prod.fst).filter fun u => u.utf8ByteSize = x.1.utf8ByteSize).takeWhile (· ≠ x.1)
      = (tried.filter fun y => y.1.utf8ByteSize = x.1.utf8ByteSize).map Prod.fst := by
  have hkeep := Grammar.filter_byLength (fun y => decide (y.1.utf8ByteSize = x.1.utf8ByteSize))
    (fun y hy => of_decide_eq_true hy) variants
  have hself : decide (x.1.utf8ByteSize = x.1.utf8ByteSize) = true := decide_eq_true rfl
  rw [hsplit, List.filter_append, List.filter_cons, if_pos hself] at hkeep
  rw [List.filter_map, Function.comp_def, ← hkeep, List.map_append, List.map_cons, List.takeWhile_append_of_pos,
    List.takeWhile_cons_of_neg (by simp), List.append_nil]
  intro u hu
  obtain ⟨y, hy, rfl⟩ := List.mem_map.1 hu
  exact decide_eq_true (htried y (List.mem_filter.1 hy).1)

theorem mem_tried_iff (hsplit : Grammar.byLength variants = tried ++ x :: rest) (htried : ∀ y ∈ tried, y.1 ≠ x.1)
    (t : String) : t ∈ tried.map Prod.fst ↔ t ∈ triedBefore (variants.map Prod.fst) x.1 := by
  have hsorted := Grammar.byLength_decreasing variants
  rw [hsplit, List.pairwise_append, List.pairwise_cons] at hsorted
  have hmem (y : String × α) : y ∈ variants ↔ y ∈ tried ∨ y = x ∨ y ∈ rest := by
    rw [← Grammar.mem_byLength, hsplit, List.mem_append, List.mem_cons]
  rw [triedBefore, takeWhile_tied hsplit htried, List.mem_append]
  simp only [List.mem_filter, List.mem_map, decide_eq_true_eq]
  constructor
  · rintro ⟨y, hy, rfl⟩
    rcases Nat.lt_or_eq_of_le (hsorted.2.2 y hy x List.mem_cons_self) with hsize | hsize
    · exact .inl ⟨⟨y, (hmem y).2 (.inl hy), rfl⟩, hsize⟩
    · exact .inr ⟨y, ⟨hy, hsize.symm⟩, rfl⟩
  · rintro (⟨⟨y, hy, rfl⟩, hsize⟩ | ⟨y, ⟨hy, -⟩, rfl⟩)
    · rcases (hmem y).1 hy with hy | rfl | hy
      · exact ⟨y, hy, rfl⟩
      · exact absurd hsize (Nat.lt_irrefl _)
      · exact absurd (hsorted.2.1.1 y hy) (Nat.not_le.2 hsize)
    · exact ⟨y, hy, rfl⟩

end Tried

/-- Among the variants, the one that is chosen: none that is read has more bytes, and of those with as many it is the
first. -/
structure Chosen (reads : String → Prop) [DecidablePred reads] (variants : List (String × α)) (x : String × α) : Prop where
  read : reads x.1
  longest : ∀ y ∈ variants, reads y.1 → y.1.utf8ByteSize ≤ x.1.utf8ByteSize
  first : variants.find? (fun y => reads y.1 ∧ y.1.utf8ByteSize = x.1.utf8ByteSize) = some x

theorem Chosen.mem {reads : String → Prop} [DecidablePred reads] {variants : List (String × α)} {x : String × α}
    (h : Chosen reads variants x) : x ∈ variants :=
  List.mem_of_find?_eq_some h.first

theorem exists_chosen {reads : String → Prop} [DecidablePred reads] {variants : List (String × α)}
    (h : ∃ x ∈ variants, reads x.1) :
    ∃ tried x rest, Grammar.byLength variants = tried ++ x :: rest ∧ (∀ y ∈ tried, ¬reads y.1) ∧
      Chosen reads variants x := by
  obtain ⟨y, hy, hread⟩ := h
  have hsome : ((Grammar.byLength variants).find? fun x => reads x.1).isSome = true :=
    List.find?_isSome.2 ⟨y, Grammar.mem_byLength.2 hy, decide_eq_true hread⟩
  obtain ⟨x, hx⟩ := Option.isSome_iff_exists.1 hsome
  obtain ⟨hxread, tried, rest, hsplit, htried⟩ := List.find?_eq_some_iff_append.1 hx
  have hxread : reads x.1 := of_decide_eq_true hxread
  have htried (y) (hy : y ∈ tried) : ¬reads y.1 := by simpa using htried y hy
  refine ⟨tried, x, rest, hsplit, htried, hxread, fun y hy hyread => ?_, ?_⟩
  · have hsorted := Grammar.byLength_decreasing variants
    rw [hsplit, List.pairwise_append, List.pairwise_cons] at hsorted
    rw [← Grammar.mem_byLength, hsplit, List.mem_append, List.mem_cons] at hy
    rcases hy with hy | rfl | hy
    · exact absurd hyread (htried y hy)
    · exact Nat.le_refl _
    · exact hsorted.2.1.1 y hy
  · -- sorting keeps the order of the spellings of this length, so its first one is the first one listed
    have hkeep := Grammar.filter_byLength (fun y => reads y.1 ∧ y.1.utf8ByteSize = x.1.utf8ByteSize)
      (fun y hy => (of_decide_eq_true hy).2) variants
    rw [← List.head?_filter, ← hkeep, List.head?_filter, hsplit, List.find?_eq_some_iff_append]
    exact ⟨decide_eq_true ⟨hxread, rfl⟩, tried, rest, rfl, fun y hy => by simp [htried y hy]⟩

/-! ## Branches that are read or missed -/

theorem Expected.ofList_perm {names names' : List String} (h : names.Perm names') :
    (Keyed.ofList names : Expected) = Keyed.ofList names' :=
  Keyed.ext fun z => by rw [mem_ofList, mem_ofList, h.mem_iff]

/-- The witness of names that were looked for at `pos` and not found there. -/
def missed (pos : Nat) (names : List String) : Option Furthest :=
  if names = [] then none else some ⟨pos, .ofList names⟩

theorem isFurthest_missed (pos : Nat) (names : List String) :
    IsFurthest (names.map (Furthest.of pos)) (missed pos names) := by
  cases names with
  | nil => rfl
  | cons x xs =>
    rw [missed, if_neg (List.cons_ne_nil x xs)]
    refine ⟨⟨.of pos x, List.mem_cons_self, rfl⟩, List.forall_mem_map.2 fun y _ => Nat.le_refl pos, fun z => ?_⟩
    simp only [Expected.mem_ofList, List.mem_map, exists_exists_and_eq_and, Furthest.of, Keyed.mem_single, true_and]
    simp

theorem missed_congr {pos : Nat} {names names' : List String} (h : ∀ z, z ∈ names ↔ z ∈ names') :
    missed pos names = missed pos names' := by
  have hsame (f) : f ∈ names.map (Furthest.of pos) ↔ f ∈ names'.map (Furthest.of pos) := by
    simp only [List.mem_map, h]
  exact ((isFurthest_missed pos names).congr hsame).unique (isFurthest_missed pos names')

theorem pos_missed {pos : Nat} {names : List String} {f : Furthest} (h : f ∈ missed pos names) : f.pos = pos := by
  rw [missed] at h
  split_ifs at h
  · cases h
  · rw [← Option.mem_some.1 h]

theorem absorb_missed (pos : Nat) (names : List String) (name : String) :
    (Furthest.of pos name).absorb (missed pos names) = ⟨pos, .ofList (names ++ [name])⟩ := by
  have hboth := (IsFurthest.singleton (Furthest.of pos name)).append (isFurthest_missed pos names)
  have hsame := (hboth.congr fun f => by simp [or_comm]).unique (isFurthest_missed pos (names ++ [name]))
  have hsome : missed pos (names ++ [name]) = some ⟨pos, .ofList (names ++ [name])⟩ := if_neg (by simp)
  exact Option.some.inj (hsame.trans hsome)

namespace Parser

variable {ι A : Type} [Item ι] {p : A → Parser Option ι β} {name : A → String} {s : Stream ι} {pos : Nat} {xs : List A}

theorem witnessesAt_of_missed (hxs : ∀ x ∈ xs, p x s pos = some (.failed pos (name x))) :
    witnessesAt s pos (xs.map p) = (xs.map name).map (Furthest.of pos) := by
  induction xs with
  | nil => rfl
  | cons x xs ih =>
    rw [List.map_cons, witnessesAt_cons_of_fail (hxs x List.mem_cons_self),
      ih fun y hy => hxs y (List.mem_cons_of_mem x hy)]
    rfl

theorem alt_of_missed (hxs : ∀ x ∈ xs, p x s pos = some (.failed pos (name x))) {qs : List (Parser Option ι β)}
    (hqs : qs ≠ []) :
    alt (xs.map p ++ qs) s pos = (alt qs s pos).map (Step.aggregate (missed pos (xs.map name))) := by
  obtain ⟨w, hw, halt⟩ := alt_of_fails (List.forall_mem_map.2 fun x hx => ⟨_, _, hxs x hx⟩)
  rw [witnessesAt_of_missed hxs] at hw
  obtain rfl : w = missed pos (xs.map name) := hw.unique (isFurthest_missed pos _)
  exact halt qs hqs

theorem alt_of_all_missed (hxs : ∀ x ∈ xs, p x s pos = some (.failed pos (name x))) :
    alt (xs.map p) s pos = some (.fail pos ⟨pos, .ofList (xs.map name)⟩) := by
  rcases List.eq_nil_or_concat' xs with rfl | ⟨init, x, rfl⟩
  · rfl
  · have hinit (y) (hy : y ∈ init) := hxs y (List.mem_append_left [x] hy)
    rw [List.map_append, List.map_singleton, alt_of_missed hinit (List.cons_ne_nil _ _), alt_singleton,
      hxs x List.mem_concat_self, List.map_append, List.map_singleton, ← absorb_missed]
    rfl

theorem alt_of_read (hxs : ∀ x ∈ xs, p x s pos = some (.failed pos (name x))) {x : A} {v : β} {next : Nat}
    (hx : p x s pos = some (.done v next)) (rest : List A) :
    alt ((xs ++ x :: rest).map p) s pos = some (.success v next (missed pos (xs.map name))) := by
  rw [List.map_append, alt_of_missed hxs (by simp), List.map_cons, alt, altFrom, run_plain, hx]
  rfl

end Parser

/-- How a choice among `texts` goes at `pos`. It has a value exactly if one of them is read there, and then a chosen
value; otherwise it fails where it is, and all of them were expected. -/
structure Chooses (pos : Nat) (texts : List String) (reads : String → Prop) (chosen : β → Nat → Prop)
    (run : Option (Step β)) : Prop where
  succeeds : (∃ v next w, run = some (.success v next w)) ↔ ∃ t ∈ texts, reads t
  chosen : ∀ v next w, run = some (.success v next w) → chosen v next
  fails : (∀ t ∈ texts, ¬reads t) → run = some (.fail pos ⟨pos, .ofList texts⟩)

section Choice

variable {d : Declarations Char Γ} {budget : Nat} {s : Stream Char} {pos : Nat} {branch : String × α → Grammar Char Γ β}
  {reads : String → Prop} [DecidablePred reads] {value : String × α → β} {next : String → Nat}
  {variants : List (String × α)}

/-- Each of these grammars reads its spelling at `pos`, which gives its value and goes on at `next`, or misses it. -/
def Spells (d : Declarations Char Γ) (budget : Nat) (s : Stream Char) (pos : Nat)
    (branch : String × α → Grammar Char Γ β) (reads : String → Prop) [DecidablePred reads] (value : String × α → β)
    (next : String → Nat) : Prop :=
  ∀ x, d.runAt budget (branch x) s pos = some (if reads x.1 then .done (value x) (next x.1) else .failed pos x.1)

theorem Spells.result {spelled : String × α → Grammar Char Γ String} {slice : String × α → String}
    (h : Spells d budget s pos spelled reads slice next) :
    Spells d budget s pos (fun x => .result (spelled x) x.2) reads Prod.snd next := by
  intro x
  show d.runAt budget (.map (fun _ => x.2) (spelled x)) s pos = _
  rw [Declarations.runAt_map, h x]
  split <;> rfl

theorem runAt_choice (variants : List (String × α)) :
    (d.runAt budget (.alt ((Grammar.byLength variants).map branch)) s pos : Option (Step β))
      = Parser.alt ((Grammar.byLength variants).map fun x => d.parser budget (branch x)) s pos := by
  rw [Declarations.runAt, Parser.run_plain, Declarations.parser, Grammar.parser_alt, List.map_map]
  rfl

theorem Spells.fails (hspells : Spells d budget s pos branch reads value next) (h : ∀ x ∈ variants, ¬reads x.1) :
    d.runAt budget (.alt ((Grammar.byLength variants).map branch)) s pos
      = some (.fail pos ⟨pos, .ofList (variants.map Prod.fst)⟩) := by
  have hmiss (x) (hx : x ∈ Grammar.byLength variants) :
      d.parser budget (branch x) s pos = some (.failed pos x.1) := by
    have hrun := hspells x
    rwa [if_neg (h x (Grammar.mem_byLength.1 hx)), Declarations.runAt, Parser.run_plain] at hrun
  rw [runAt_choice, Parser.alt_of_all_missed hmiss,
    Expected.ofList_perm ((Grammar.byLength_perm variants).map Prod.fst)]

theorem Spells.succeeds (hspells : Spells d budget s pos branch reads value next) (h : ∃ x ∈ variants, reads x.1) :
    ∃ x, Chosen reads variants x ∧
      d.runAt budget (.alt ((Grammar.byLength variants).map branch)) s pos
        = some (.success (value x) (next x.1) (missed pos (triedBefore (variants.map Prod.fst) x.1))) := by
  obtain ⟨tried, x, rest, hsplit, htried, hchosen⟩ := exists_chosen h
  have hbranch (y) := (Parser.run_plain (d.parser budget (branch y)) s pos).symm.trans (hspells y)
  have hmiss (y) (hy : y ∈ tried) : d.parser budget (branch y) s pos = some (.failed pos y.1) := by
    rw [hbranch, if_neg (htried y hy)]
  have hread : d.parser budget (branch x) s pos = some (.done (value x) (next x.1)) := by
    rw [hbranch, if_pos hchosen.read]
  have hother (y) (hy : y ∈ tried) : y.1 ≠ x.1 := fun hsame => htried y hy (hsame ▸ hchosen.read)
  refine ⟨x, hchosen, ?_⟩
  rw [runAt_choice, ← missed_congr (mem_tried_iff hsplit hother), hsplit]
  exact Parser.alt_of_read hmiss hread rest

theorem Spells.chooses (hspells : Spells d budget s pos branch reads value next) (variants : List (String × α)) :
    Chooses pos (variants.map Prod.fst) reads
      (fun v stop => ∃ x, Chosen reads variants x ∧ value x = v ∧ next x.1 = stop)
      (d.runAt budget (.alt ((Grammar.byLength variants).map branch)) s pos) := by
  by_cases h : ∃ x ∈ variants, reads x.1
  · obtain ⟨x, hchosen, hrun⟩ := hspells.succeeds h
    have hread : ∃ t ∈ variants.map Prod.fst, reads t := ⟨x.1, List.mem_map_of_mem hchosen.mem, hchosen.read⟩
    refine ⟨iff_of_true ⟨_, _, _, hrun⟩ hread, fun v stop w hrun' => ?_, fun hmiss => ?_⟩
    · obtain ⟨rfl, rfl, -⟩ := Step.success.inj (Option.some.inj (hrun.symm.trans hrun'))
      exact ⟨x, hchosen, rfl, rfl⟩
    · obtain ⟨t, ht, hread⟩ := hread
      exact absurd hread (hmiss t ht)
  · have hmiss (x) (hx : x ∈ variants) : ¬reads x.1 := fun hread => h ⟨x, hx, hread⟩
    rw [hspells.fails hmiss]
    refine ⟨iff_of_false nofun fun ⟨t, ht, hread⟩ => ?_, nofun, fun _ => rfl⟩
    obtain ⟨x, hx, rfl⟩ := List.mem_map.1 ht
    exact hmiss x hx hread

theorem Spells.witness (hspells : Spells d budget s pos branch reads value next) {v : β} {stop : Nat}
    {w : Option Furthest}
    (hrun : d.runAt budget (.alt ((Grammar.byLength variants).map branch)) s pos = some (.success v stop w)) :
    ∃ x, Chosen reads variants x ∧ value x = v ∧ w = missed pos (triedBefore (variants.map Prod.fst) x.1) := by
  obtain ⟨t, ht, hread⟩ := (hspells.chooses variants).succeeds.1 ⟨v, stop, w, hrun⟩
  obtain ⟨y, hy, rfl⟩ := List.mem_map.1 ht
  obtain ⟨x, hx, hrun'⟩ := hspells.succeeds ⟨y, hy, hread⟩
  obtain ⟨rfl, -, rfl⟩ := Step.success.inj (Option.some.inj (hrun'.symm.trans hrun))
  exact ⟨x, hx, rfl, rfl⟩

end Choice

theorem Chooses.mono {pos : Nat} {texts : List String} {reads reads' : String → Prop} {chosen chosen' : β → Nat → Prop}
    {run : Option (Step β)} (h : Chooses pos texts reads chosen run) (hreads : ∀ t, reads t ↔ reads' t)
    (hchosen : ∀ v next, chosen v next → chosen' v next) : Chooses pos texts reads' chosen' run := by
  obtain rfl : reads = reads' := funext fun t => propext (hreads t)
  exact ⟨h.succeeds, fun v next w hrun => hchosen v next (h.chosen v next w hrun), h.fails⟩

end Descent
