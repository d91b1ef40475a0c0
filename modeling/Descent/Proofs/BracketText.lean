import Descent.Proofs.Prefixes

/-!
# Texts of nested brackets

* `Items`: what a list in brackets holds, letters and other lists
* `Items.text`, `Items.bracketed`: how it is written, without and with the brackets around it
* `Items.pairs`: the number of brackets that it opens, and closes

A written list closes what it opens, and what it begins with, short of the whole, has something open. So a text begins
with one list at most, and a list is not the beginning of another one. What a list may begin with is either nothing, the
whole list, or some open brackets with items behind each (`Opened`), and every letter of the alphabet may follow there:
this finds the longest beginning of a text that a list may go on from (`Longest`).
-/

namespace Descent

/-- Items of a list, each an `x` or another list. -/
inductive Items where
  | nil
  | letter (rest : Items)
  | list (inner rest : Items)
  deriving DecidableEq, Repr

namespace Items

def text : Items → List Char
  | nil => []
  | letter rest => 'x' :: rest.text
  | list inner rest => '[' :: (inner.text ++ ']' :: rest.text)

def bracketed (items : Items) : List Char := '[' :: (items.text ++ [']'])

/-- The number of lists, on all levels. -/
def pairs : Items → Nat
  | nil => 0
  | letter rest => rest.pairs
  | list inner rest => inner.pairs + 1 + rest.pairs

def append : Items → Items → Items
  | nil, more => more
  | letter rest, more => letter (rest.append more)
  | list inner rest, more => list inner (rest.append more)

@[simp] theorem pairs_append (items more : Items) : (items.append more).pairs = items.pairs + more.pairs := by
  induction items with
  | nil => simp [append, pairs]
  | letter rest ih => exact ih
  | list inner rest _ ih => simp [append, pairs, ih, Nat.add_assoc]

@[simp] theorem text_append (items more : Items) : (items.append more).text = items.text ++ more.text := by
  induction items with
  | nil => rfl
  | letter rest ih => rw [append, text, text, ih, List.cons_append]
  | list inner rest _ ih => simp [append, text, ih]

theorem count_open_text (items : Items) : items.text.count '[' = items.pairs := by
  induction items with
  | nil => rfl
  | letter rest ih => simpa [text, pairs] using ih
  | list inner rest ihi ihr =>
    simp [text, pairs, ihi, ihr]
    omega

theorem mem_text {items : Items} {c : Char} (h : c ∈ items.text) : c ∈ ['[', ']', 'x'] := by
  induction items with
  | nil => cases h
  | letter rest ih =>
    rcases List.mem_cons.1 h with rfl | h
    · simp
    · exact ih h
  | list inner rest ihi ihr =>
    rcases List.mem_cons.1 h with rfl | h
    · simp
    · rcases List.mem_append.1 h with h | h
      · exact ihi h
      · rcases List.mem_cons.1 h with rfl | h
        · simp
        · exact ihr h

theorem mem_bracketed {items : Items} {c : Char} (h : c ∈ items.bracketed) : c ∈ ['[', ']', 'x'] := by
  rcases List.mem_cons.1 h with rfl | h
  · simp
  · rcases List.mem_append.1 h with h | h
    · exact mem_text h
    · rw [List.mem_singleton.1 h]
      simp

/-- The number of lists can be read off the text. -/
theorem pairs_eq_of_bracketed {items items' : Items} (h : items.bracketed = items'.bracketed) :
    items.pairs = items'.pairs := by
  have hcount := congrArg (List.count '[') h
  simpa [bracketed, count_open_text] using hcount

end Items

/-! ## What is open -/

/-- What a text leaves open: the brackets that it opens less those that it closes. -/
def level (w : List Char) : Int := w.count '[' - w.count ']'

@[simp] theorem level_nil : level [] = 0 := rfl

@[simp] theorem level_open (w : List Char) : level ('[' :: w) = level w + 1 := by
  simp [level]
  omega

@[simp] theorem level_close (w : List Char) : level (']' :: w) = level w - 1 := by
  simp [level]
  omega

@[simp] theorem level_letter (w : List Char) : level ('x' :: w) = level w := by
  simp [level]

@[simp] theorem level_append (u w : List Char) : level (u ++ w) = level u + level w := by
  simp [level]
  omega

namespace Items

@[simp] theorem level_text (items : Items) : level items.text = 0 := by
  induction items with
  | nil => rfl
  | letter rest ih => simpa [text] using ih
  | list inner rest ihi ihr => simp [text, ihi, ihr]

@[simp] theorem level_bracketed (items : Items) : level items.bracketed = 0 := by simp [bracketed]

theorem level_of_prefix_text {items : Items} {u : List Char} (h : u <+: items.text) : 0 ≤ level u := by
  induction items generalizing u with
  | nil =>
    rw [List.prefix_nil.1 h]
    exact Int.le_refl 0
  | letter rest ih =>
    rcases List.prefix_cons_iff.1 h with rfl | ⟨u', rfl, h'⟩
    · exact Int.le_refl 0
    · rw [level_letter]
      exact ih h'
  | list inner rest ihi ihr =>
    rcases List.prefix_cons_iff.1 h with rfl | ⟨u', rfl, h'⟩
    · exact Int.le_refl 0
    rw [level_open]
    rcases prefix_append_cases h' with hinner | ⟨u'', rfl, hrest⟩
    · have := ihi hinner
      omega
    · rcases List.prefix_cons_iff.1 hrest with rfl | ⟨v, rfl, hv⟩
      · simp
      · have := ihr hv
        simp
        omega

theorem level_of_prefix_bracketed {items : Items} {u : List Char} (h : u <+: items.bracketed) (hne : u ≠ [])
    (hshort : u ≠ items.bracketed) : 0 < level u := by
  rcases List.prefix_cons_iff.1 h with rfl | ⟨u', rfl, h'⟩
  · exact absurd rfl hne
  rw [level_open]
  rcases prefix_append_cases h' with htext | ⟨v, rfl, hv⟩
  · have := level_of_prefix_text htext
    omega
  · rcases List.prefix_cons_iff.1 hv with rfl | ⟨v', rfl, hv'⟩
    · simp
    · rw [List.prefix_nil.1 hv'] at hshort
      exact absurd rfl hshort

end Items

/-! ## Beginnings of lists -/

def WellFormed (w : List Char) : Prop := ∃ items : Items, w = items.bracketed

/-- A text from which a list may go on. -/
def Viable (u : List Char) : Prop := ∃ v, WellFormed (u ++ v)

/-- Some open brackets, with items behind each. -/
inductive Opened : List Char → Prop
  | here (items : Items) : Opened ('[' :: items.text)
  | inside (items : Items) {u : List Char} (h : Opened u) : Opened ('[' :: (items.text ++ u))

theorem Opened.level_pos {u : List Char} (h : Opened u) : 0 < level u := by
  induction h with
  | here items => simp
  | inside items h ih =>
    simp
    omega

theorem Opened.viable {u : List Char} (h : Opened u) : Viable u := by
  induction h with
  | here items => exact ⟨[']'], items, rfl⟩
  | @inside items u h ih =>
    -- What closes the inner list makes it the last item of the outer one.
    obtain ⟨v, inner, hinner⟩ := ih
    refine ⟨v ++ [']'], items.append (.list inner .nil), ?_⟩
    calc '[' :: (items.text ++ u) ++ (v ++ [']'])
        = '[' :: (items.text ++ ((u ++ v) ++ [']'])) := by simp
      _ = (items.append (.list inner .nil)).bracketed := by
        rw [hinner]
        simp [Items.bracketed, Items.text_append, Items.text]

theorem Opened.ne_nil {u : List Char} (h : Opened u) : u ≠ [] := by
  rintro rfl
  cases h

theorem not_wellFormed_nil : ¬WellFormed [] := nofun

theorem not_wellFormed_of_level {w : List Char} (h : 0 < level w) : ¬WellFormed w := by
  rintro ⟨items, rfl⟩
  rw [Items.level_bracketed] at h
  exact Int.lt_irrefl 0 h

theorem Viable.of_prefix {u w : List Char} (h : u <+: w) (hw : Viable w) : Viable u := by
  obtain ⟨v, rfl⟩ := h
  obtain ⟨v', hlist⟩ := hw
  exact ⟨v ++ v', by rwa [← List.append_assoc]⟩

theorem Viable.mem {u : List Char} (h : Viable u) {c : Char} (hc : c ∈ u) : c ∈ ['[', ']', 'x'] := by
  obtain ⟨v, items, hitems⟩ := h
  have hmem : c ∈ items.bracketed := hitems ▸ List.mem_append_left v hc
  exact Items.mem_bracketed hmem

/-! ### Where no list goes on -/

theorem not_viable_of_notMem {u : List Char} {c : Char} (hc : c ∉ ['[', ']', 'x']) : ¬Viable (u ++ [c]) := by
  rintro ⟨v, items, hitems⟩
  have hmem : c ∈ items.bracketed := by simp [← hitems]
  exact hc (Items.mem_bracketed hmem)

theorem not_viable_behind {u : List Char} (hu : WellFormed u) (c : Char) : ¬Viable (u ++ [c]) := by
  rintro ⟨v, items, hitems⟩
  obtain ⟨inner, rfl⟩ := hu
  have hstart : inner.bracketed <+: items.bracketed := ⟨[c] ++ v, by rw [← hitems, List.append_assoc]⟩
  have hshort : inner.bracketed ≠ items.bracketed := by
    intro h
    rw [← h] at hitems
    simp at hitems
  have hlevel := Items.level_of_prefix_bracketed hstart (List.cons_ne_nil _ _) hshort
  rw [Items.level_bracketed] at hlevel
  exact Int.lt_irrefl 0 hlevel

theorem not_viable_first {c : Char} (hc : c ≠ '[') : ¬Viable [c] := by
  rintro ⟨v, items, hitems⟩
  exact hc (List.cons.inj hitems).1

/-- The longest beginning of a text from which a list may go on. -/
structure Longest (w u : List Char) : Prop where
  starts : u <+: w
  viable : Viable u
  longest : ∀ u', u' <+: w → Viable u' → u'.length ≤ u.length

theorem Longest.of_next {u rest : List Char} (hu : Viable u) (hnext : ∀ c ∈ rest.head?, ¬Viable (u ++ [c])) :
    Longest (u ++ rest) u := by
  refine ⟨List.prefix_append u rest, hu, fun u' hstart hviable => Nat.le_of_not_lt fun hlonger => ?_⟩
  rcases prefix_or_longer hstart with h | ⟨c, v, rfl, v', rfl⟩
  · exact absurd h.length_le (Nat.not_le.2 hlonger)
  · refine hnext c rfl (hviable.of_prefix ⟨v, ?_⟩)
    rw [List.append_assoc, List.singleton_append]

theorem Longest.eq_of_wellFormed {w u : List Char} (h : Longest w u) (hw : WellFormed w) : u = w :=
  h.starts.eq_of_length_le (h.longest w (List.prefix_refl w) ⟨[], by rwa [List.append_nil]⟩)

theorem longest_nil {w : List Char} (hw : w.head? ≠ some '[') : Longest w [] := by
  refine .of_next (u := []) ⟨Items.bracketed .nil, .nil, rfl⟩ fun c hc => not_viable_first ?_
  rintro rfl
  exact hw hc

theorem longest_wellFormed {u : List Char} (hu : WellFormed u) (rest : List Char) : Longest (u ++ rest) u :=
  .of_next ⟨[], by rwa [List.append_nil]⟩ fun c _ => not_viable_behind hu c

theorem longest_opened {u rest : List Char} (hu : Opened u) (hrest : ∀ c ∈ rest.head?, c ∉ ['[', ']', 'x']) :
    Longest (u ++ rest) u :=
  .of_next hu.viable fun c hc => not_viable_of_notMem (hrest c hc)

end Descent
