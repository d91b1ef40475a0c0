import Descent.Proofs.Lookahead
import Descent.Proofs.Outcome

/-!
# Items with separators

A repetition with separators reads the longest chain: item, separator, item, … (`Alternates`), as far as its bounds let
it, and it does not take a separator that no item follows (`separated_longest_chain`).

It is put together from a first item and a repetition of the others, each with its separator before it, which gives a
value for a row of them (`Chained`).
-/

namespace Descent

variable {ι : Type} [Item ι] {Γ : Nat → Type} {α β : Type}

/-! ## Chains -/

/-- Items one after another with separators between them, the last item of which ends at `next`. -/
inductive Alternates (item : Nat → Reply α → Prop) (separator : Nat → Reply β → Prop) :
    (pos : Nat) → List α → (next : Nat) → Prop
  | last {pos next : Nat} {v : α} (hitem : item pos (.value v next)) : Alternates item separator pos [v] next
  | more {pos mid after next : Nat} {v : α} {u : β} {vs : List α} (hitem : item pos (.value v mid))
      (hseparator : separator mid (.value u after)) (hlater : Alternates item separator after vs next) :
      Alternates item separator pos (v :: vs) next

def Separated (item : Nat → Reply α → Prop) (separator : Nat → Reply β → Prop) (pos : Nat) (r : Reply α) : Prop :=
  ∃ r₁, separator pos r₁ ∧ r₁.Leads (fun _ next r => item next r) r

section Chains

variable {item : Nat → Reply α → Prop} {separator : Nat → Reply β → Prop} {pos next : Nat}
  {v : α} {vs : List α}

theorem separated_value :
    Separated item separator pos (.value v next)
      ↔ ∃ u mid, separator pos (.value u mid) ∧ item mid (.value v next) := by
  constructor
  · rintro ⟨r₁, hr₁, hlead⟩
    cases r₁ with
    | value u mid => exact ⟨u, mid, hr₁, hlead⟩
    | miss => cases hlead
    | error e => cases hlead
  · rintro ⟨u, mid, hr₁, hitem⟩
    exact ⟨_, hr₁, hitem⟩

theorem separated_miss :
    Separated item separator pos .miss
      ↔ separator pos .miss ∨ ∃ u mid, separator pos (.value u mid) ∧ item mid .miss := by
  constructor
  · rintro ⟨r₁, hr₁, hlead⟩
    cases r₁ with
    | value u mid => exact .inr ⟨u, mid, hr₁, hlead⟩
    | miss => exact .inl hr₁
    | error e => cases hlead
  · rintro (hmiss | ⟨u, mid, hr₁, hitem⟩)
    · exact ⟨_, hmiss, rfl⟩
    · exact ⟨_, hr₁, hitem⟩

theorem separated_not_error (hitem : ∀ q e, ¬item q (.error e)) (hseparator : ∀ q e, ¬separator q (.error e))
    (e : DefinitionError) : ¬Separated item separator pos (.error e) := by
  rintro ⟨r₁, hr₁, hlead⟩
  cases r₁ with
  | value u mid => exact hitem mid e hlead
  | miss => cases hlead
  | error e' => exact hseparator pos e' hr₁

theorem alternates_iff :
    Alternates item separator pos vs next
      ↔ ∃ v mid ws, vs = v :: ws ∧ item pos (.value v mid) ∧ Chained (Separated item separator) mid ws next := by
  constructor
  · intro h
    induction h with
    | last hitem => exact ⟨_, _, [], rfl, hitem, .nil⟩
    | more hitem hseparator _ ih =>
      obtain ⟨w, mid, ws, rfl, hnext, hrow⟩ := ih
      exact ⟨_, _, _, rfl, hitem, .cons (separated_value.2 ⟨_, _, hseparator, hnext⟩) hrow⟩
  · rintro ⟨v, mid, ws, rfl, hitem, hrow⟩
    induction hrow generalizing v pos with
    | nil => exact .last hitem
    | cons hnext _ ih =>
      obtain ⟨u, after, hseparator, hnext⟩ := separated_value.1 hnext
      exact .more hitem hseparator (ih _ hnext)

end Chains

/-! ## Grammars -/

def Bounds.others (b : Bounds) : Bounds := ⟨b.min - 1, b.max.map (· - 1)⟩

namespace Bounds

variable {b : Bounds} {count : Nat}

theorem admits_others (hmost : ∀ max ∈ b.max, 1 ≤ max) : b.others.Admits count ↔ b.Admits (count + 1) := by
  constructor
  · rintro ⟨hmin, hmax⟩
    have hmin : b.min - 1 ≤ count := hmin
    refine ⟨by omega, fun max hmem => ?_⟩
    have hone := hmost max hmem
    have hle : count ≤ max - 1 := hmax (max - 1) (Option.mem_map_of_mem (· - 1) hmem)
    omega
  · rintro ⟨hmin, hmax⟩
    refine ⟨show b.min - 1 ≤ count by omega, fun most hmem => ?_⟩
    obtain ⟨max, hsome, rfl⟩ := Option.map_eq_some_iff.1 hmem
    have := hmax max hsome
    omega

theorem full_others (hadmits : b.Admits (count + 1)) : ¬b.others.Room count ↔ b.max = some (count + 1) := by
  constructor
  · intro hfull
    cases hmax : b.max with
    | none => exact absurd (fun most hmem => by simp [others, hmax] at hmem) hfull
    | some max =>
      have hle := hadmits.2 max hmax
      have hless : ¬count < max - 1 := by
        intro hless
        refine hfull fun most hmem => ?_
        obtain rfl : max - 1 = most := by simpa [others, hmax] using hmem
        exact hless
      rw [Option.some.injEq]
      omega
  · intro hmax hroom
    have hless : count < count + 1 - 1 := hroom _ (Option.mem_map_of_mem (· - 1) hmax)
    omega

end Bounds

section Items

variable {item : Nat → Reply α → Prop} {separator : Nat → Reply β → Prop} {b : Bounds} {pos : Nat} {vs : List α}

/-- The replies of a first item and of the others behind it. -/
def ItemReplies (item : Nat → Reply α → Prop) (separator : Nat → Reply β → Prop) (b : Bounds) (pos : Nat)
    (r : Reply (List α)) : Prop :=
  ∃ r₁, item pos r₁ ∧
    r₁.Leads (fun v next r => ∃ r₂, Repeats (Separated item separator) b.others 0 next r₂ ∧ r = r₂.map (v :: ·)) r

theorem itemReplies_value (hmost : ∀ max ∈ b.max, 1 ≤ max) (hmoving : KeepsMoving b.others (Separated item separator))
    {q : Nat} : ItemReplies item separator b pos (.value vs q)
      ↔ Alternates item separator pos vs q ∧ b.Admits vs.length ∧
          (b.max = some vs.length ∨ Separated item separator q .miss) := by
  rw [alternates_iff]
  constructor
  · rintro ⟨r₁, hr₁, hlead⟩
    cases r₁ with
    | value v mid =>
      obtain ⟨r₂, hr₂, hcons⟩ := hlead
      cases r₂ with
      | value ws q' =>
        cases hcons
        obtain ⟨hrow, hadmits, hend⟩ := chained_of_repeats hr₂ fun max _ => Nat.zero_le max
        rw [Nat.zero_add] at hadmits hend
        have hadmits := (Bounds.admits_others hmost).1 hadmits
        rw [Bounds.full_others hadmits] at hend
        exact ⟨⟨v, mid, ws, rfl, hr₁, hrow⟩, hadmits, hend⟩
      | miss => cases hcons
      | error e => cases hcons
    | miss => cases hlead
    | error e => cases hlead
  · rintro ⟨⟨v, mid, ws, rfl, hr₁, hrow⟩, hadmits, hend⟩
    rw [List.length_cons] at hadmits hend
    rw [← Bounds.full_others hadmits] at hend
    have hadmits := (Bounds.admits_others hmost).2 hadmits
    rw [← Nat.zero_add ws.length] at hadmits hend
    exact ⟨_, hr₁, _, hrow.repeats hmoving hadmits hend, rfl⟩

theorem itemReplies_not_nil {q : Nat} : ¬ItemReplies item separator b pos (.value [] q) := by
  rintro ⟨r₁, hr₁, hlead⟩
  cases r₁ with
  | value v mid =>
    obtain ⟨r₂, -, hcons⟩ := hlead
    cases r₂ <;> cases hcons
  | miss => cases hlead
  | error e => cases hlead

theorem itemReplies_miss (hmin : b.min = 0) : ItemReplies item separator b pos .miss ↔ item pos .miss := by
  constructor
  · rintro ⟨r₁, hr₁, hlead⟩
    cases r₁ with
    | value v mid =>
      obtain ⟨r₂, hr₂, hcons⟩ := hlead
      cases r₂ with
      | value ws q => cases hcons
      | miss =>
        have hless : 0 < b.min - 1 := hr₂.lt_of_miss
        omega
      | error e => cases hcons
    | miss => exact hr₁
    | error e => cases hlead
  · intro hmiss
    exact ⟨_, hmiss, rfl⟩

theorem itemReplies_not_error (hitem : ∀ q e, ¬item q (.error e)) (hseparator : ∀ q e, ¬separator q (.error e))
    (hmoving : KeepsMoving b.others (Separated item separator)) (e : DefinitionError) :
    ¬ItemReplies item separator b pos (.error e) := by
  rintro ⟨r₁, hr₁, hlead⟩
  cases r₁ with
  | value v mid =>
    obtain ⟨r₂, hr₂, hcons⟩ := hlead
    cases r₂ with
    | value ws q => cases hcons
    | miss => cases hcons
    | error e' => exact hr₂.not_error (fun q e => separated_not_error hitem hseparator e) hmoving e'
  | miss => cases hlead
  | error e' => exact hitem pos e' hr₁

/-- The replies of items with separators: an empty list stands in for items that are missed, where none are needed. -/
def SeparatedReplies (item : Nat → Reply α → Prop) (separator : Nat → Reply β → Prop) (b : Bounds) (pos : Nat)
    (r : Reply (List α)) : Prop :=
  ∃ r₁, ItemReplies item separator b pos r₁ ∧ r = if b.min = 0 then r₁.orElse (.value [] pos) else r₁

theorem separatedReplies_cons {q : Nat} (hvs : vs ≠ []) :
    SeparatedReplies item separator b pos (.value vs q) ↔ ItemReplies item separator b pos (.value vs q) := by
  constructor
  · rintro ⟨r₁, hr₁, hr⟩
    by_cases hmin : b.min = 0
    · rw [if_pos hmin] at hr
      cases r₁ with
      | value ws q' =>
        cases hr
        exact hr₁
      | miss =>
        cases hr
        exact absurd rfl hvs
      | error e => cases hr
    · rw [if_neg hmin] at hr
      rwa [hr]
  · intro hr
    refine ⟨_, hr, ?_⟩
    split <;> rfl

theorem separatedReplies_nil {q : Nat} :
    SeparatedReplies item separator b pos (.value [] q) ↔ q = pos ∧ b.min = 0 ∧ item pos .miss := by
  constructor
  · rintro ⟨r₁, hr₁, hr⟩
    by_cases hmin : b.min = 0
    · rw [if_pos hmin] at hr
      cases r₁ with
      | value ws q' =>
        cases hr
        exact absurd hr₁ itemReplies_not_nil
      | miss =>
        cases hr
        exact ⟨rfl, hmin, (itemReplies_miss hmin).1 hr₁⟩
      | error e => cases hr
    · rw [if_neg hmin] at hr
      rw [← hr] at hr₁
      exact absurd hr₁ itemReplies_not_nil
  · rintro ⟨rfl, hmin, hmiss⟩
    refine ⟨_, (itemReplies_miss hmin).2 hmiss, ?_⟩
    rw [if_pos hmin]
    rfl

theorem separatedReplies_not_error (hitem : ∀ q e, ¬item q (.error e)) (hseparator : ∀ q e, ¬separator q (.error e))
    (hmoving : KeepsMoving b.others (Separated item separator)) (e : DefinitionError) :
    ¬SeparatedReplies item separator b pos (.error e) := by
  rintro ⟨r₁, hr₁, hr⟩
  have herror : r₁ = .error e := by
    by_cases hmin : b.min = 0
    · rw [if_pos hmin] at hr
      cases r₁ with
      | value ws q => cases hr
      | miss => cases hr
      | error e' => exact hr.symm
    · rw [if_neg hmin] at hr
      exact hr.symm
  rw [herror] at hr₁
  exact itemReplies_not_error hitem hseparator hmoving e hr₁

/-! ### Items with separators reply -/

theorem exists_separated (hitems : ∀ q, ∃ r, item q r) (hseparators : ∀ q, ∃ r, separator q r) (q : Nat) :
    ∃ r, Separated item separator q r := by
  obtain ⟨r₁, hr₁⟩ := hseparators q
  cases r₁ with
  | value u mid =>
    obtain ⟨r, hr⟩ := hitems mid
    exact ⟨r, _, hr₁, hr⟩
  | miss => exact ⟨.miss, _, hr₁, rfl⟩
  | error e => exact ⟨.error e, _, hr₁, rfl⟩

theorem exists_separatedReplies {limit : Nat} (hitems : ∀ q, ∃ r, item q r) (hseparators : ∀ q, ∃ r, separator q r)
    (hahead : b.max = none → ∀ q v r, Separated item separator q (.value v r) → q < r ∧ r ≤ limit) :
    ∃ r, SeparatedReplies item separator b pos r := by
  obtain ⟨r₁, hr₁⟩ := hitems pos
  cases r₁ with
  | value v mid =>
    have hothers : b.others.max = none → ∀ q v r, Separated item separator q (.value v r) → q < r ∧ r ≤ limit :=
      fun hmax => hahead (Option.map_eq_none_iff.1 hmax)
    obtain ⟨r₂, hr₂⟩ := exists_repeats (exists_separated hitems hseparators) hothers 0 mid
    exact ⟨_, _, ⟨_, hr₁, r₂, hr₂, rfl⟩, rfl⟩
  | miss => exact ⟨_, _, ⟨_, hr₁, rfl⟩, rfl⟩
  | error e => exact ⟨_, _, ⟨_, hr₁, rfl⟩, rfl⟩

end Items

section Grammars

variable [DecidableEq ι] {d : Declarations ι Γ} {s : Stream ι} {b : Bounds} {g : Grammar ι Γ α}
  {separator : Grammar ι Γ β} {pos : Nat}

theorem replies_andThen {r : Reply α} :
    d.Replies (.andThen separator g) s pos r ↔ Separated (d.Replies g s) (d.Replies separator s) pos r := by
  refine (Declarations.replies_thenCombine _).trans (exists_congr fun r₁ => and_congr_right fun _ => ?_)
  refine Reply.leads_congr fun u next => ?_
  simp only [Reply.map_id]
  constructor
  · rintro ⟨r₂, hr₂, rfl⟩
    exact hr₂
  · intro hr
    exact ⟨r, hr, rfl⟩

theorem replies_items {r : Reply (List α)} :
    d.Replies (.merge (.zip g (.times b.others (.andThen separator g)))) s pos r
      ↔ ItemReplies (d.Replies g s) (d.Replies separator s) b pos r := by
  have hothers (next : Nat) (r : Reply (List α)) : d.Replies (.times b.others (.andThen separator g)) s next r
      ↔ Repeats (Separated (d.Replies g s) (d.Replies separator s)) b.others 0 next r := by
    refine Declarations.replies_times.trans ⟨fun h => ?_, fun h => ?_⟩
    · exact h.mono fun q r => replies_andThen.1
    · exact h.mono fun q r => replies_andThen.2
  refine (Declarations.replies_map _).trans ?_
  constructor
  · rintro ⟨_, hzip, rfl⟩
    obtain ⟨r₁, hr₁, hlead⟩ := (Declarations.replies_thenCombine _).1 hzip
    refine ⟨r₁, hr₁, ?_⟩
    cases r₁ with
    | value v next =>
      obtain ⟨r₂, hr₂, rfl⟩ := hlead
      exact ⟨r₂, (hothers next r₂).1 hr₂, Reply.map_map ..⟩
    | miss =>
      cases hlead
      rfl
    | error e =>
      cases hlead
      rfl
  · rintro ⟨r₁, hr₁, hlead⟩
    cases r₁ with
    | value v next =>
      obtain ⟨r₂, hr₂, rfl⟩ := hlead
      refine ⟨r₂.map (Prod.mk v), (Declarations.replies_thenCombine _).2 ⟨_, hr₁, r₂, (hothers next r₂).2 hr₂, rfl⟩, ?_⟩
      rw [Reply.map_map]
    | miss =>
      cases hlead
      exact ⟨.miss, (Declarations.replies_thenCombine _).2 ⟨_, hr₁, rfl⟩, rfl⟩
    | error e =>
      cases hlead
      exact ⟨.error e, (Declarations.replies_thenCombine _).2 ⟨_, hr₁, rfl⟩, rfl⟩

theorem replies_sepByBounded (hmax : b.max ≠ some 0) {r : Reply (List α)} :
    d.Replies (.sepByBounded b g separator) s pos r
      ↔ SeparatedReplies (d.Replies g s) (d.Replies separator s) b pos r := by
  rw [Grammar.sepByBounded, if_neg hmax]
  by_cases hmin : b.min = 0
  · simp only [SeparatedReplies, if_pos hmin]
    refine (Declarations.replies_or_succeed []).trans (exists_congr fun r₁ => and_congr_left fun _ => ?_)
    exact replies_items
  · simp only [SeparatedReplies, if_neg hmin, exists_eq_right']
    exact replies_items

end Grammars

/-- **Items with separators are the longest chain.** Let the item and the separator never be in error, let 0 not be the
greatest number, and, where there is none, let a separator with an item consume something. Then a repetition comes to a
list of items just when they are a chain from its start whose length the bounds admit, and which cannot go on: it has the
greatest length, or there is no separator behind it, or a separator without an item. It comes to an empty list, without
moving, just when none are needed and the first item is missed. All other replies are misses, and it does reply when its
parts do. -/
theorem separated_longest_chain [DecidableEq ι] (d : Declarations ι Γ) (s : Stream ι) (b : Bounds) (g : Grammar ι Γ α)
    (separator : Grammar ι Γ β) (hitem : ∀ q e, ¬d.Replies g s q (.error e))
    (hseparator : ∀ q e, ¬d.Replies separator s q (.error e)) (hmost : ∀ max ∈ b.max, 1 ≤ max)
    (hconsumes : b.max = none → ∀ q v r, d.Replies (.andThen separator g) s q (.value v r) → q < r) (pos : Nat) :
    (∀ vs q, vs ≠ [] →
      (d.Replies (.sepByBounded b g separator) s pos (.value vs q) ↔
        Alternates (d.Replies g s) (d.Replies separator s) pos vs q ∧ b.Admits vs.length ∧
        (b.max = some vs.length ∨ d.Replies separator s q .miss ∨
          ∃ u r, d.Replies separator s q (.value u r) ∧ d.Replies g s r .miss))) ∧
    (∀ q, d.Replies (.sepByBounded b g separator) s pos (.value [] q) ↔
      q = pos ∧ b.min = 0 ∧ d.Replies g s pos .miss) ∧
    (∀ r, d.Replies (.sepByBounded b g separator) s pos r → r = .miss ∨ ∃ vs q, r = .value vs q) ∧
    ((∀ q, ∃ r, d.Replies g s q r) → (∀ q, ∃ r, d.Replies separator s q r) →
      (b.max = none → ∀ q v r, d.Replies (.andThen separator g) s q (.value v r) → r ≤ s.length) →
      ∃ r, d.Replies (.sepByBounded b g separator) s pos r) := by
  have hmax : b.max ≠ some 0 := fun hzero => absurd (hmost 0 hzero) (by decide)
  have hmoves (hnone : b.max = none) (q : Nat) (v : α) (r : Nat)
      (hr : Separated (d.Replies g s) (d.Replies separator s) q (.value v r)) : q < r :=
    hconsumes hnone q v r (replies_andThen.2 hr)
  have hmoving : KeepsMoving b.others (Separated (d.Replies g s) (d.Replies separator s)) :=
    fun hnone => hmoves (Option.map_eq_none_iff.1 hnone)
  refine ⟨fun vs q hvs => ?_, fun q => ?_, fun r hr => ?_, fun hitems hseparators hlimit => ?_⟩
  · rw [replies_sepByBounded hmax, separatedReplies_cons hvs, itemReplies_value hmost hmoving, separated_miss]
  · rw [replies_sepByBounded hmax, separatedReplies_nil]
  · cases r with
    | value vs q => exact .inr ⟨vs, q, rfl⟩
    | miss => exact .inl rfl
    | error e =>
      have herror := (replies_sepByBounded hmax).1 hr
      exact absurd herror (separatedReplies_not_error hitem hseparator hmoving e)
  · have hreplies : ∃ r, SeparatedReplies (d.Replies g s) (d.Replies separator s) b pos r :=
      exists_separatedReplies hitems hseparators fun hnone q v r hr =>
        ⟨hmoves hnone q v r hr, hlimit hnone q v r (replies_andThen.2 hr)⟩
    exact hreplies.imp fun r hr => (replies_sepByBounded hmax).2 hr

/-! ### Letters with commas -/

def Grammar.comma : Grammar Char (fun _ => String) String := literal ","

section Letters

variable {s : Stream Char}

theorem value_comma_letter {q r : Nat} {v : String}
    (h : Declarations.none.Replies (.andThen Grammar.comma Grammar.anA) s q (.value v r)) : r = q + 2 ∧ r ≤ s.length := by
  obtain ⟨u, mid, hcomma, hletter⟩ := separated_value.1 (replies_andThen.1 h)
  have hcomma := replies_literal.1 hcomma
  have hletter := replies_literal.1 hletter
  split at hcomma
  · cases hcomma
    split at hletter
    · next hstands =>
      cases hletter
      exact ⟨rfl, (Stream.ahead_hasAt hstands).le_length⟩
    · cases hletter
  · cases hcomma

open Grammar in
/-- Two letters with a comma, and one comma too many, which stays unread. -/
theorem separated_longest_chain_letters :
    Declarations.none.Replies (.sepByBounded ⟨1, none⟩ anA comma) (.ofString "a,a,") 0 (.value ["a", "a"] 3) ∧
    ¬Declarations.none.Replies (.sepByBounded ⟨1, none⟩ anA comma) (.ofString "a,a,") 0 (.value [] 0) ∧
    ∃ r, Declarations.none.Replies (.sepByBounded ⟨1, none⟩ anA comma) (.ofString "a,a,") 2 r := by
  let text := Stream.ofString "a,a,"
  have hletters := separated_longest_chain Declarations.none text ⟨1, none⟩ anA comma (fun q e => literal_not_error e)
    (fun q e => literal_not_error e) nofun fun _ q v r hr => by have := (value_comma_letter hr).1; omega
  have hfirst : Declarations.none.Replies anA text 0 (.value "a" 1) := replies_literal.2 (by decide)
  have hcomma : Declarations.none.Replies comma text 1 (.value "," 2) := replies_literal.2 (by decide)
  have hlast : Declarations.none.Replies anA text 2 (.value "a" 3) := replies_literal.2 (by decide)
  have hchain : Alternates (Declarations.none.Replies anA text) (Declarations.none.Replies comma text) 0 ["a", "a"] 3 :=
    .more hfirst hcomma (.last hlast)
  have hend : ∃ u r, Declarations.none.Replies comma text 3 (.value u r) ∧ Declarations.none.Replies anA text r .miss :=
    ⟨",", 4, replies_literal.2 (by decide), replies_literal.2 (by decide)⟩
  refine ⟨((hletters 0).1 _ 3 (by decide)).2 ⟨hchain, by decide, .inr (.inr hend)⟩, fun hnone => ?_, ?_⟩
  · exact absurd (((hletters 0).2.1 0).1 hnone).2.1 (by decide)
  · exact (hletters 2).2.2.2 (fun q => ⟨_, replies_literal.2 rfl⟩) (fun q => ⟨_, replies_literal.2 rfl⟩)
      fun _ q v r hr => (value_comma_letter hr).2

end Letters

end Descent
