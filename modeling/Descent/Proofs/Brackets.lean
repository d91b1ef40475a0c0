import Descent.Proofs.BracketText
import Descent.Proofs.Termination
import Descent.Proofs.Translation

/-!
# The parser of nested brackets

The grammar of nested brackets reads exactly the lists, and reports the place of the first mistake with all that could
have stood there (`brackets_parse_exact`).

A mistake inside a list ends the repetition that holds the list, which goes back to before its bracket, and the
alternation with a letter goes back as well; this happens once for each bracket that is open. What is left of the
mistake is the witness. So the outcomes of the two declarations say where the witness of a failure stands and what it
names (`ListOutcome`, `ItemOutcome`), the outcome of a repetition says the same of the witness that it succeeds with
(`ManyOutcome`), and the induction is on the budget, over both declarations at once (`brings_brackets`).
-/

namespace Descent

/-! ## Runs of plain grammars -/

section Plain

variable {ι : Type} [Item ι] [DecidableEq ι] {Γ : Nat → Type} {α β γ : Type} {d : Declarations ι Γ} {n : Nat}
  {s : Stream ι} {pos : Nat}

theorem brings_map {g : Grammar ι Γ α} {f : α → β} {Q : Step β → Prop}
    (hg : Brings (d.runAt n g s pos) fun step => Q (step.map f)) : Brings (d.runAt n (.map f g) s pos) Q := by
  rw [Declarations.runAt, Parser.run_plain]
  exact Brings.bind hg fun step hstep => .pure hstep

theorem brings_thenCombine {g : Grammar ι Γ α} {h : Grammar ι Γ β} {f : α → β → γ} {Q : Step γ → Prop}
    (hg : Brings (d.runAt n g s pos) fun
      | .success v next w => Brings (d.runAt n h s next) fun step => Q ((step.aggregate w).map (f v))
      | .fail q w => Q (.fail q w)
      | .error e => Q (.error e)) :
    Brings (d.runAt n (.thenCombine f g h) s pos) Q := by
  rw [Declarations.runAt, Parser.run_plain]
  refine Brings.bind hg fun step hstep => ?_
  cases step with
  | success v next w => exact Brings.bind hstep fun step' hstep' => .pure hstep'
  | fail q w => exact .pure hstep
  | error e => exact .pure hstep

theorem brings_or {g h : Grammar ι Γ α} {Q : Step α → Prop}
    (hg : Brings (d.runAt n g s pos) fun
      | .success v next w => Q (.success v next w)
      | .fail _ w => Brings (d.runAt n h s pos) fun step => Q (step.aggregate (some w))
      | .error e => Q (.error e)) :
    Brings (d.runAt n (.or g h) s pos) Q := by
  rw [Declarations.runAt, Parser.run_plain]
  refine Brings.bind hg fun step hstep => ?_
  cases step with
  | success v next w => exact .pure (by simpa using hstep)
  | fail q w =>
    refine Brings.bind hstep fun step' hstep' => ?_
    cases step' with
    | success v next w => exact .pure (by simpa using hstep')
    | fail q w => exact .pure (by simpa using hstep')
    | error e => exact .pure (by simpa using hstep')
  | error e => exact .pure (by simpa using hstep)

theorem brings_append (hd : d.Within (.relative ι)) {g : Grammar ι Γ α} (hg : g.Within (.relative ι)) {u w : List ι}
    {Q : Step α → Prop} (h : Brings (d.runAt n g (.ofList w) 0) fun step => Q (step.shift (Stream.extent u))) :
    Brings (d.runAt n g (.ofList (u ++ w)) (Stream.extent u)) Q := by
  intro step hrun
  have hmoved := runAt_append hd hg n u w 0
  rw [Nat.add_zero, hrun] at hmoved
  obtain ⟨step', hrun', rfl⟩ := Option.map_eq_some_iff.1 hmoved.symm
  exact h step' hrun'

theorem brings_leaf {l : Leaf ι α} {Q : Step α → Prop} (h : Q (l.step s pos)) :
    Brings (d.runAt n (.leaf l) s pos) Q := by
  rw [Declarations.runAt_leaf]
  exact .pure h

theorem brings_eof {w : List ι} {Q : Step Unit → Prop} (hdone : w = [] → Q (.success () 0 none))
    (hfailed : w ≠ [] → Q (.fail 0 ⟨0, .single "EOF"⟩)) : Brings (d.runAt n .eof (.ofList w) 0) Q := by
  refine brings_leaf ?_
  rw [Leaf.step, Stream.length_eq_extent, Stream.items_ofList]
  split
  next h =>
    refine hdone ?_
    by_contra hne
    exact absurd h (Nat.not_le.2 (Stream.extent_pos hne))
  next h =>
    refine hfailed ?_
    rintro rfl
    exact h (Nat.le_refl 0)

end Plain

/-! ## What is read -/

theorem brings_letter {Γ : Nat → Type} {d : Declarations Char Γ} {n : Nat} {text : String} {c : Char}
    (htext : text.toList = [c]) (hwidth : Item.width c = 1) {w : List Char} {Q : Step String → Prop}
    (hdone : ∀ v, w.head? = some c → Q (.success v 1 none))
    (hfailed : w.head? ≠ some c → Q (.fail 0 ⟨0, .single text⟩)) :
    Brings (d.runAt n (.literal text) (.ofList w) 0) Q := by
  refine brings_map (brings_leaf ?_)
  rw [htext, Leaf.step]
  split
  next h =>
    rw [Stream.hasAt_start] at h
    simpa [hwidth, Step.map, Step.done] using hdone _ h
  next h =>
    rw [Stream.hasAt_start] at h
    exact hfailed h

theorem brings_letter_behind {Γ : Nat → Type} {d : Declarations Char Γ} (hd : d.Within (.relative Char)) {n : Nat}
    {text : String} {c : Char} (htext : text.toList = [c]) (hwidth : Item.width c = 1) {u w : List Char}
    {Q : Step String → Prop} (hdone : ∀ v, w.head? = some c → Q (.success v (Stream.extent u + 1) none))
    (hfailed : w.head? ≠ some c → Q (.fail (Stream.extent u) ⟨Stream.extent u, .single text⟩)) :
    Brings (d.runAt n (.literal text) (.ofList (u ++ w)) (Stream.extent u)) Q :=
  brings_append hd (g := .literal text) trivial (brings_letter htext hwidth hdone hfailed)

/-- What comes of a list at the start of a text. -/
inductive ListOutcome (w : List Char) : Step Nat → Prop
  | list (items : Items) (rest : List Char) (hw : w = items.bracketed ++ rest) (seen : Option Furthest)
      (hseen : ∀ f ∈ seen, f.pos < Stream.extent items.bracketed) :
      ListOutcome w (.success items.pairs (Stream.extent items.bracketed) seen)
  | absent (hopen : w.head? ≠ some '[') (q : Nat) : ListOutcome w (.fail q ⟨0, .single "["⟩)
  | stuck (u rest : List Char) (hw : w = u ++ rest) (hu : Opened u) (hrest : ∀ c ∈ rest.head?, c ∉ ['[', ']', 'x'])
      (q : Nat) : ListOutcome w (.fail q ⟨Stream.extent u, Keyed.ofList ["[", "]", "x"]⟩)

inductive ItemOutcome (w : List Char) : Step Nat → Prop
  | item (items : Items) (hne : items.text ≠ []) (rest : List Char) (hw : w = items.text ++ rest)
      (seen : Option Furthest) (hseen : ∀ f ∈ seen, f.pos < Stream.extent items.text) :
      ItemOutcome w (.success items.pairs (Stream.extent items.text) seen)
  | absent (hopen : w.head? ≠ some '[') (hletter : w.head? ≠ some 'x') (q : Nat) :
      ItemOutcome w (.fail q ⟨0, Keyed.ofList ["[", "x"]⟩)
  | stuck (u rest : List Char) (hw : w = u ++ rest) (hu : Opened u) (hrest : ∀ c ∈ rest.head?, c ∉ ['[', ']', 'x'])
      (q : Nat) : ItemOutcome w (.fail q ⟨Stream.extent u, Keyed.ofList ["[", "]", "x"]⟩)

/-- What comes of any number of items from the offset `k` on, when there are some already with the sum `total`. -/
inductive ManyOutcome (k total : Nat) (w : List Char) : Step (List Nat) → Prop
  | ended (items : Items) (rest : List Char) (hw : w = items.text ++ rest) (hopen : rest.head? ≠ some '[')
      (hletter : rest.head? ≠ some 'x') (values : List Nat) (hsum : values.foldl (· + ·) 0 = total + items.pairs) :
      ManyOutcome k total w (.success values (k + Stream.extent items.text)
        (some ⟨k + Stream.extent items.text, Keyed.ofList ["[", "x"]⟩))
  | stuck (items : Items) (u rest : List Char) (hw : w = items.text ++ (u ++ rest)) (hu : Opened u)
      (hrest : ∀ c ∈ rest.head?, c ∉ ['[', ']', 'x']) (values : List Nat) :
      ManyOutcome k total w (.success values (k + Stream.extent items.text)
        (some ⟨k + Stream.extent items.text + Stream.extent u, Keyed.ofList ["[", "]", "x"]⟩))

/-! ### An item -/

theorem Opened.head? {u : List Char} (h : Opened u) : u.head? = some '[' := by
  cases h <;> rfl

theorem Opened.extent_pos {u : List Char} (h : Opened u) : 0 < Stream.extent u := Stream.extent_pos h.ne_nil

theorem head?_append_opened {u : List Char} (h : Opened u) (w : List Char) : (u ++ w).head? = some '[' := by
  rw [List.head?_append, h.head?]
  rfl

theorem brings_bracketItem {n : Nat}
    (hlist : ∀ w, Brings (Declarations.brackets.runAt n (.ref 0) (.ofList w) 0) (ListOutcome w)) (w : List Char) :
    Brings (Declarations.brackets.runAt n (Grammar.bracketItem 0) (.ofList w) 0) (ItemOutcome w) := by
  refine brings_or (brings_map ((hlist w).mono fun step hstep => ?_))
  cases hstep with
  | list items rest hw seen hseen =>
    have hitem := ItemOutcome.item (.list items .nil) (List.cons_ne_nil _ _) rest hw seen hseen
    exact hitem
  | absent hopen q =>
    refine brings_map (brings_letter (c := 'x') (by rfl) (by decide) (fun v hletter => ?_) fun hletter => ?_)
    · obtain ⟨rest, rfl⟩ := List.head?_eq_some_iff.1 hletter
      have hseen : ∀ f ∈ some (⟨0, .single "["⟩ : Furthest), f.pos < Stream.extent (Items.letter .nil).text := by
        rintro f ⟨⟩
        decide
      exact .item (.letter .nil) (List.cons_ne_nil _ _) rest rfl _ hseen
    · exact .absent hopen hletter 0
  | stuck u rest hw hu hrest q =>
    -- The letter is tried where the list began, and its witness falls behind that of the list.
    have hhead : w.head? = some '[' := hw ▸ head?_append_opened hu rest
    refine brings_map (brings_letter (c := 'x') (by rfl) (by decide) (fun v hletter => ?_) fun hletter => ?_)
    · rw [hhead] at hletter
      exact absurd hletter (by decide)
    · have habsorb : (⟨0, .single "x"⟩ : Furthest).absorb (some ⟨Stream.extent u, Keyed.ofList ["[", "]", "x"]⟩)
          = ⟨Stream.extent u, Keyed.ofList ["[", "]", "x"]⟩ := Furthest.absorb_of_lt hu.extent_pos
      change ItemOutcome w (.fail 0 (Furthest.absorb _ _))
      rw [habsorb]
      exact .stuck u rest hw hu hrest 0

/-! ### Any number of items -/

theorem ManyOutcome.after {k total : Nat} {items : Items} {w : List Char} {step : Step (List Nat)}
    (h : ManyOutcome (k + Stream.extent items.text) (total + items.pairs) w step) :
    ManyOutcome k total (items.text ++ w) step := by
  cases h with
  | ended more rest hw hopen hletter values hsum =>
    have hmany : ManyOutcome k total (items.text ++ w) _ :=
      .ended (items.append more) rest (by simp [hw]) hopen hletter values (by simp [hsum, Nat.add_assoc])
    simpa [Stream.extent_append, Nat.add_assoc] using hmany
  | stuck more u rest hw hu hrest values =>
    have hmany : ManyOutcome k total (items.text ++ w) _ :=
      .stuck (items.append more) u rest (by simp [hw]) hu hrest values
    simpa [Stream.extent_append, Nat.add_assoc] using hmany

/-- A repetition ends with the witness of the last failure, when that is the furthest one. -/
theorem brings_noMore {values : Array Nat} {pos q : Nat} {seen : Option Furthest} {w : Furthest}
    (hseen : ∀ f ∈ seen, f.pos < w.pos) {Q : Step (List Nat) → Prop} (h : Q (.success values.toList pos (some w))) :
    Brings (if values.size < Bounds.any.min then pure (.fail q (w.absorb seen))
      else Parser.timesEnd .any values pos (Furthest.merge seen (some w))) Q := by
  have hmin : ¬values.size < Bounds.any.min := Nat.not_lt_zero _
  rw [if_neg hmin, Parser.timesEnd, if_neg hmin, Furthest.merge_of_lt hseen]
  exact .pure h

theorem brings_items {n : Nat}
    (hitem : ∀ w, Brings (Declarations.brackets.runAt n (.ref 1) (.ofList w) 0) (ItemOutcome w)) (allowance : Nat)
    (values : Array Nat) (u w : List Char) (seen : Option Furthest) (hseen : ∀ f ∈ seen, f.pos < Stream.extent u) :
    Brings (Parser.timesFrom .any (Declarations.brackets.parser n (.ref 1)) (.ofList (u ++ w)) allowance values
      (Stream.extent u) seen) (ManyOutcome (Stream.extent u) (values.toList.foldl (· + ·) 0) w) := by
  induction allowance generalizing values u w seen with
  | zero => exact .giveUp
  | succ k ih =>
    have hd : Declarations.brackets.Within (.relative Char) := Declarations.brackets_within fun _ _ => trivial
    have hbehind : Brings (Declarations.brackets.runAt n (.ref 1) (.ofList (u ++ w)) (Stream.extent u)) fun step =>
        ∃ step', ItemOutcome w step' ∧ step = step'.shift (Stream.extent u) :=
      brings_append hd (g := .ref 1) trivial ((hitem w).mono fun step h => ⟨step, h, rfl⟩)
    refine Brings.bind hbehind fun step hstep => ?_
    obtain ⟨step, hstep, rfl⟩ := hstep
    cases hstep with
    | item items hne rest hw seen' hseen' =>
      have hmoves := Stream.extent_pos hne
      have hstall : ¬Parser.stalls .any values.size (Stream.extent u)
          (Stream.extent u + Stream.extent items.text) = true := by
        simp [Parser.stalls]
        omega
      simp only [Step.shift_success, if_neg hstall]
      -- Nothing seen up to here is as far as the end of the item, from which the next one is tried.
      have hbefore : ∀ f ∈ Furthest.merge seen (seen'.map (Furthest.shift (Stream.extent u))),
          f.pos < Stream.extent (u ++ items.text) := by
        rw [Stream.extent_append]
        refine Furthest.merge_lt (fun f hf => Nat.lt_add_right _ (hseen f hf)) fun f hf => ?_
        obtain ⟨g, hg, rfl⟩ := Option.map_eq_some_iff.1 hf
        exact Nat.add_lt_add_left (hseen' g hg) _
      have hrest := ih (values.push items.pairs) (u ++ items.text) rest _ hbefore
      rw [Stream.extent_append, List.append_assoc, ← hw, Array.toList_push,
        List.foldl_concat] at hrest
      exact hrest.mono fun last hlast => hw ▸ hlast.after
    | absent hopen hletter q =>
      refine brings_noMore (fun f hf => hseen f hf) ?_
      exact .ended .nil w rfl hopen hletter values.toList rfl
    | stuck u' rest hw hu hrest q =>
      refine brings_noMore (fun f hf => Nat.lt_add_right _ (hseen f hf)) ?_
      exact .stuck .nil u' rest hw hu hrest values.toList

/-! ### A list -/

theorem extent_bracketed (items : Items) :
    Stream.extent items.bracketed = Stream.extent ('[' :: items.text) + 1 := by
  rw [Items.bracketed, Stream.extent_cons, Stream.extent_append]
  rfl

namespace ListOutcome

theorem closed {items : Items} {n : Nat} (hn : n = items.pairs) (rest : List Char) :
    ListOutcome ('[' :: (items.text ++ ']' :: rest)) (.success n (Stream.extent ('[' :: items.text) + 1)
      (some ⟨Stream.extent ('[' :: items.text), Keyed.ofList ["[", "x"]⟩)) := by
  rw [hn, ← extent_bracketed]
  refine .list items rest (by simp [Items.bracketed]) _ ?_
  rintro f ⟨⟩
  rw [extent_bracketed]
  exact Nat.lt_succ_self _

/-- Behind all the items comes nothing that may stand there: what was expected of an item joins in. -/
theorem unclosed (items : Items) {rest : List Char} (hrest : ∀ c ∈ rest.head?, c ∉ ['[', ']', 'x']) (q : Nat) :
    ListOutcome ('[' :: (items.text ++ rest)) (.fail q
      ((⟨Stream.extent ('[' :: items.text), .single "]"⟩ : Furthest).absorb
        (some ⟨Stream.extent ('[' :: items.text), Keyed.ofList ["[", "x"]⟩))) := by
  rw [Furthest.absorb_same]
  exact .stuck ('[' :: items.text) rest rfl (.here items) hrest q

/-- A list stands behind the items that does not go on: its witness is further than that of the missing bracket. -/
theorem inside (items : Items) {u rest : List Char} (hu : Opened u) (hrest : ∀ c ∈ rest.head?, c ∉ ['[', ']', 'x'])
    (q : Nat) :
    ListOutcome ('[' :: (items.text ++ (u ++ rest))) (.fail q
      ((⟨Stream.extent ('[' :: items.text), .single "]"⟩ : Furthest).absorb
        (some ⟨Stream.extent ('[' :: items.text) + Stream.extent u, Keyed.ofList ["[", "]", "x"]⟩))) := by
  rw [Furthest.absorb_of_lt (Nat.lt_add_of_pos_right hu.extent_pos), ← Stream.extent_append]
  exact .stuck ('[' :: (items.text ++ u)) rest (by simp) (.inside items hu) hrest q

end ListOutcome

theorem brings_bracketList {n : Nat}
    (hitem : ∀ w, Brings (Declarations.brackets.runAt n (.ref 1) (.ofList w) 0) (ItemOutcome w)) (w : List Char) :
    Brings (Declarations.brackets.runAt n (Grammar.bracketList 1) (.ofList w) 0) (ListOutcome w) := by
  have hd : Declarations.brackets.Within (.relative Char) := Declarations.brackets_within fun _ _ => trivial
  refine brings_map (brings_thenCombine (brings_thenCombine
    (brings_letter (c := '[') (by rfl) (by decide) (fun v hfirst => ?_) fun hfirst => .absent hfirst 0)))
  obtain ⟨w', rfl⟩ := List.head?_eq_some_iff.1 hfirst
  have hmany : Brings (Declarations.brackets.runAt n (.many (.ref 1)) (.ofList ('[' :: w')) 1)
      (ManyOutcome 1 0 w') := by
    rw [Declarations.runAt, Parser.run_plain]
    exact brings_items hitem _ #[] ['['] w' none fun f hf => absurd hf (Option.not_mem_none f)
  refine hmany.mono fun step hstep => ?_
  cases hstep with
  | ended items rest hw hopen hletter values hsum =>
    subst hw
    refine brings_letter_behind (c := ']') (u := '[' :: items.text) hd (by rfl) (by decide) (fun v hclose => ?_)
      fun hclose => ?_
    · obtain ⟨rest, rfl⟩ := List.head?_eq_some_iff.1 hclose
      exact .closed (hsum.trans (Nat.zero_add _)) rest
    · refine .unclosed items (fun c hc hmem => ?_) _
      simp only [List.mem_cons, List.not_mem_nil, or_false] at hmem
      rcases hmem with rfl | rfl | rfl
      · exact hopen hc
      · exact hclose hc
      · exact hletter hc
  | stuck items u rest hw hu hrest values =>
    subst hw
    refine brings_letter_behind (c := ']') (u := '[' :: items.text) hd (by rfl) (by decide) (fun v hclose => ?_)
      fun _ => .inside items hu hrest _
    rw [head?_append_opened hu rest] at hclose
    exact absurd hclose (by decide)

/-! ### All runs -/

theorem brings_brackets (n : Nat) :
    (∀ w, Brings (Declarations.brackets.runAt n (.ref 0) (.ofList w) 0) (ListOutcome w)) ∧
    ∀ w, Brings (Declarations.brackets.runAt n (.ref 1) (.ofList w) 0) (ItemOutcome w) := by
  induction n with
  | zero => exact ⟨fun w => .giveUp, fun w => .giveUp⟩
  | succ n ih =>
    refine ⟨fun w => ?_, fun w => ?_⟩
    · rw [Declarations.runAt_ref rfl]
      exact brings_bracketList ih.2 w
    · rw [Declarations.runAt_ref rfl]
      exact brings_bracketItem ih.1 w

/-- What was expected behind the longest beginning of a text that a list may go on from. -/
structure Expects (u : List Char) (x : Expected) : Prop where
  atStart : u = [] → x = .single "["
  behindList : WellFormed u → x = .single "EOF"
  inside : u ≠ [] → ¬WellFormed u → x = Keyed.ofList ["[", "]", "x"]

theorem expects_nil : Expects [] (.single "[") where
  atStart _ := rfl
  behindList h := absurd h not_wellFormed_nil
  inside h := absurd rfl h

theorem expects_wellFormed {u : List Char} (hu : WellFormed u) : Expects u (.single "EOF") where
  atStart h := absurd (h ▸ hu) not_wellFormed_nil
  behindList _ := rfl
  inside _ h := absurd hu h

theorem expects_opened {u : List Char} (hu : Opened u) : Expects u (Keyed.ofList ["[", "]", "x"]) where
  atStart h := absurd h hu.ne_nil
  behindList h := absurd h (not_wellFormed_of_level hu.level_pos)
  inside _ _ := rfl

inductive WholeOutcome (w : List Char) : Step Nat → Prop
  | list (items : Items) (hw : w = items.bracketed) (next : Nat) (seen : Option Furthest) :
      WholeOutcome w (.success items.pairs next seen)
  | mistake (u : List Char) (hu : Longest w u) (hw : ¬WellFormed w) (x : Expected) (hx : Expects u x) (q : Nat) :
      WholeOutcome w (.fail q ⟨Stream.extent u, x⟩)

theorem brings_whole (n : Nat) (w : List Char) :
    Brings (Declarations.brackets.runAt n (.skip (.ref 0) .eof) (.ofList w) 0) (WholeOutcome w) := by
  have hd : Declarations.brackets.Within (.relative Char) := Declarations.brackets_within fun _ _ => trivial
  refine brings_thenCombine (((brings_brackets n).1 w).mono fun step hstep => ?_)
  cases hstep with
  | list items rest hw seen hseen =>
    subst hw
    -- Only the end may follow, and nothing seen inside the list is as far as that.
    have hlist : WellFormed items.bracketed := ⟨items, rfl⟩
    have hlongest := longest_wellFormed hlist rest
    refine brings_append hd (g := .eof) trivial (brings_eof (fun hend => ?_) fun hmore => ?_)
    · exact .list items (by rw [hend, List.append_nil]) _ _
    · have hnot : ¬WellFormed (items.bracketed ++ rest) := fun h => by
        simpa [hmore] using hlongest.eq_of_wellFormed h
      have hmistake := WholeOutcome.mistake items.bracketed hlongest hnot _ (expects_wellFormed hlist)
        (Stream.extent items.bracketed)
      have habsorb : (⟨Stream.extent items.bracketed, .single "EOF"⟩ : Furthest).absorb seen
          = ⟨Stream.extent items.bracketed, .single "EOF"⟩ := Furthest.absorb_of_gt hseen
      rw [← habsorb] at hmistake
      exact hmistake
  | absent hopen q =>
    have hlongest := longest_nil hopen
    exact .mistake [] hlongest (fun hw => not_wellFormed_nil (hlongest.eq_of_wellFormed hw ▸ hw)) _ expects_nil q
  | stuck u rest hw hu hrest q =>
    subst hw
    have hlongest := longest_opened hu hrest
    have hnot : ¬WellFormed (u ++ rest) := fun h =>
      not_wellFormed_of_level hu.level_pos (by rwa [hlongest.eq_of_wellFormed h])
    exact .mistake u hlongest hnot _ (expects_opened hu) q

/-! ## Parses -/

theorem extent_of_viable {u : List Char} (h : Viable u) : Stream.extent u = u.length := by
  have hwidth : ∀ c ∈ u, Item.width c = 1 := by
    intro c hc
    have hmem := h.mem hc
    simp only [List.mem_cons, List.not_mem_nil, or_false] at hmem
    rcases hmem with rfl | rfl | rfl <;> rfl
  clear h
  induction u with
  | nil => rfl
  | cons c u ih =>
    rw [Stream.extent_cons, hwidth c (List.mem_cons_self ..), ih fun c hc => hwidth c (List.mem_cons_of_mem _ hc),
      List.length_cons, Nat.add_comm]

/-- A mistake is reported at the end of the longest beginning from which a list may go on. -/
theorem report_mistake {u w : List Char} (hu : Longest w u) (x : Expected) (q : Nat) :
    ∃ p : Position, p.offset = u.length ∧
      (Step.fail q ⟨Stream.extent u, x⟩ : Step Nat).report (.ofList w) = .error (.parse ⟨p, x⟩) := by
  obtain ⟨rest, hrest⟩ := hu.starts
  have hboundary : (Stream.ofList w).isBoundary (Stream.extent u) = true :=
    Stream.isBoundary_iff_split.2 ⟨u, rest, by rw [Stream.items_ofList, hrest], rfl⟩
  obtain ⟨p, hp⟩ := Stream.position_eq_ok hboundary
  refine ⟨p, (Stream.offset_of_position hp).trans (extent_of_viable hu.viable), ?_⟩
  simp only [Step.report, hp]

/-- **The parser of nested brackets is exact.** It comes back with the number of lists inside when the text is a list,
and only then; otherwise the mistake stands behind the longest beginning of the text that a list may go on from, with
all that may stand there. -/
theorem brackets_parse_exact (text : String) :
    ∃ n result, (∀ budget, n ≤ budget → Declarations.brackets.parse budget (.ref 0) (.ofString text) = some result) ∧
      (∀ count, result = .ok count ↔ ∃ items : Items, text.toList = items.bracketed ∧ items.pairs = count) ∧
      (¬WellFormed text.toList → ∃ e u, result = .error (.parse e) ∧ Longest text.toList u ∧ e.offset = u.length ∧
        Expects u e.expected) := by
  have hd : Declarations.brackets.Within (.library Char) := Declarations.brackets_within fun _ _ => trivial
  have hreturns : Declarations.brackets.AllReturn (.ofString text) 0 :=
    allReturn_of_ranked hd Declarations.brackets_rankedBy (Nat.zero_le _)
  obtain ⟨step, n, hrun⟩ := exists_comesTo_iff.2
    (hreturns (.skip (.ref 0) .eof) ⟨trivial, trivial⟩ ⟨trivial, trivial⟩)
  have houtcome : WholeOutcome text.toList step := brings_whole n text.toList step (hrun n (Nat.le_refl n))
  refine ⟨n, (step.report (.ofString text)).map Prod.fst, fun budget hbudget => ?_, ?_⟩
  · rw [Declarations.parse_eq, Declarations.parsePartial_eq, hrun budget hbudget]
    rfl
  cases houtcome with
  | list items hw next seen =>
    refine ⟨fun count => ⟨fun h => ⟨items, hw, Except.ok.inj h⟩, ?_⟩, fun hnot => absurd ⟨items, hw⟩ hnot⟩
    rintro ⟨items', hw', rfl⟩
    exact congrArg Except.ok (Items.pairs_eq_of_bracketed (hw.symm.trans hw'))
  | mistake u hu hnot x hx q =>
    obtain ⟨p, hoffset, hreport⟩ := report_mistake hu x q
    rw [Stream.ofString, hreport]
    refine ⟨fun count => ⟨nofun, ?_⟩, fun _ => ⟨⟨p, x⟩, u, rfl, hu, hoffset, hx⟩⟩
    rintro ⟨items, hitems, -⟩
    exact absurd ⟨items, hitems⟩ hnot

end Descent
