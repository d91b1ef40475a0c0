import Descent.Lexer
import Descent.Proofs.Cuts

/-!
# Tilings

A vocabulary says how tokens are spelled and which characters are blank. `v.Tiles rest pos cs tokens`: the text `cs`,
which starts at the offset `pos` and is followed by `rest`, falls into the spellings of the tokens and blanks between
them, where no token could have been taken longer.

Each token of a tiling parts the text in three (`Tiles.split`), so that a token starts where the one before it stops or
later (`Tiles.apart`), and what no token takes is blank (`Tiles.taken_or_blank`). A tiling stays one when what follows
the text is cut off (`Tiles.alone`), and spellings joined by blanks have one (`exists_joined`).
-/

namespace Descent

/-- How tokens are written. Each is read off its spelling, and blanks part them. -/
structure Vocabulary (τ : Type) where
  isBlank : Char → Bool
  spelling : τ → String
  /-- The tokens that can stand in a text. -/
  Valid : τ → Prop
  spelling_ne_nil : ∀ {t}, Valid t → (spelling t).toList ≠ []
  not_blank : ∀ {t c}, Valid t → c ∈ (spelling t).toList → isBlank c = false
  spelling_injective : ∀ {t t'}, Valid t → Valid t' → spelling t = spelling t' → t = t'

namespace Vocabulary

variable {τ : Type} (v : Vocabulary τ)

def chars (t : τ) : List Char := (v.spelling t).toList

/-- Where a token is followed by this text, no token goes on behind it. -/
def EndsBefore (t : τ) (rest : List Char) : Prop :=
  ∀ t', v.Valid t' → v.chars t' <+: v.chars t ++ rest → v.chars t' <+: v.chars t

/-- The text that starts at an offset, and that is followed by `rest`, is made of blanks and of these tokens, each given
with the offsets where it starts and stops. -/
inductive Tiles (rest : List Char) : Nat → List Char → List (τ × Nat × Nat) → Prop where
  | done (pos : Nat) : Tiles rest pos [] []
  | blank {pos : Nat} {c : Char} {cs : List Char} {tokens : List (τ × Nat × Nat)} :
      v.isBlank c = true → Tiles rest (pos + Item.width c) cs tokens → Tiles rest pos (c :: cs) tokens
  | token {pos : Nat} {t : τ} {cs : List Char} {tokens : List (τ × Nat × Nat)} :
      v.Valid t → v.EndsBefore t (cs ++ rest) → Tiles rest (pos + Stream.extent (v.chars t)) cs tokens →
      Tiles rest pos (v.chars t ++ cs) ((t, pos, pos + Stream.extent (v.chars t)) :: tokens)

variable {v} {t : τ} {c : Char} {rest cs : List Char} {pos start stop : Nat} {tokens : List (τ × Nat × Nat)}

/-! ## Where a token ends -/

theorem exists_chars_eq_cons (ht : v.Valid t) : ∃ c cs, v.chars t = c :: cs :=
  List.exists_cons_of_ne_nil (v.spelling_ne_nil ht)

theorem extent_chars_pos (ht : v.Valid t) : 0 < Stream.extent (v.chars t) := by
  obtain ⟨c, cs, hchars⟩ := exists_chars_eq_cons ht
  have hwidth := Item.width_pos c
  rw [hchars, Stream.extent_cons]
  omega

theorem isBlank_of_mem_chars (ht : v.Valid t) (hc : c ∈ v.chars t) : v.isBlank c = false := v.not_blank ht hc

theorem isBlank_of_chars_eq (ht : v.Valid t) (hchars : v.chars t = c :: cs) : v.isBlank c = false := by
  refine isBlank_of_mem_chars ht ?_
  rw [hchars]
  exact List.mem_cons_self ..

theorem isBlank_of_starts (ht : v.Valid t) (hstarts : v.chars t <+: c :: cs) : v.isBlank c = false := by
  obtain ⟨d, w, hchars⟩ := exists_chars_eq_cons ht
  rw [hchars, List.cons_prefix_cons] at hstarts
  obtain ⟨rfl, -⟩ := hstarts
  exact isBlank_of_chars_eq ht hchars

theorem eq_of_chars_eq {t' : τ} (ht : v.Valid t) (ht' : v.Valid t') (h : v.chars t = v.chars t') : t = t' :=
  v.spelling_injective ht ht' (String.toList_inj.1 h)

theorem EndsBefore.unique {t' : τ} {rest' : List Char} (ht : v.Valid t) (ht' : v.Valid t') (h : v.EndsBefore t rest)
    (h' : v.EndsBefore t' rest') (htext : v.chars t ++ rest = v.chars t' ++ rest') : t = t' ∧ rest = rest' := by
  have hle : v.chars t <+: v.chars t' := by
    refine h' t ht ?_
    rw [← htext]
    exact List.prefix_append _ _
  have hge : v.chars t' <+: v.chars t := by
    refine h t' ht' ?_
    rw [htext]
    exact List.prefix_append _ _
  have hchars : v.chars t = v.chars t' := hle.eq_of_length_le hge.length_le
  rw [hchars] at htext
  exact ⟨eq_of_chars_eq ht ht' hchars, List.append_cancel_left htext⟩

theorem EndsBefore.cut {more : List Char} (h : v.EndsBefore t (rest ++ more)) : v.EndsBefore t rest := by
  intro t' ht' hstarts
  refine h t' ht' (hstarts.trans ?_)
  rw [← List.append_assoc]
  exact List.prefix_append _ more

theorem endsBefore_nil (v : Vocabulary τ) (t : τ) : v.EndsBefore t [] := by
  intro t' _ hstarts
  rwa [List.append_nil] at hstarts

theorem endsBefore_blank (hc : v.isBlank c = true) (t : τ) (rest : List Char) : v.EndsBefore t (c :: rest) := by
  intro t' ht' hstarts
  rcases prefix_or_longer hstarts with hshort | ⟨d, w, hlong, hover⟩
  · exact hshort
  · obtain ⟨rfl, -⟩ := List.cons_prefix_cons.1 hover
    have hmem : d ∈ v.chars t' := by
      rw [hlong]
      exact List.mem_append_right _ (List.mem_cons_self ..)
    have hnot := isBlank_of_mem_chars ht' hmem
    rw [hc] at hnot
    cases hnot

/-! ## The tokens of a tiling -/

namespace Tiles

theorem split (h : v.Tiles rest pos cs tokens) (hmem : (t, start, stop) ∈ tokens) :
    v.Valid t ∧ ∃ before after, cs = before ++ v.chars t ++ after ∧ v.EndsBefore t (after ++ rest) ∧
      start = pos + Stream.extent before ∧ stop = start + Stream.extent (v.chars t) := by
  induction h with
  | done => cases hmem
  | @blank pos c cs tokens _ _ ih =>
    obtain ⟨ht, before, after, rfl, hends, rfl, rfl⟩ := ih hmem
    refine ⟨ht, c :: before, after, rfl, hends, ?_, rfl⟩
    rw [Stream.extent_cons, Nat.add_assoc]
  | @token pos t' cs tokens ht' hends _ ih =>
    rcases List.mem_cons.1 hmem with hfirst | hlater
    · obtain ⟨rfl, rfl, rfl⟩ : t = t' ∧ start = pos ∧ stop = pos + Stream.extent (v.chars t') := by simpa using hfirst
      exact ⟨ht', [], cs, rfl, hends, rfl, rfl⟩
    · obtain ⟨ht, before, after, rfl, hends, rfl, rfl⟩ := ih hlater
      refine ⟨ht, v.chars t' ++ before, after, ?_, hends, ?_, rfl⟩
      · rw [List.append_assoc, List.append_assoc, List.append_assoc]
      · rw [Stream.extent_append, Nat.add_assoc]

theorem le_start (h : v.Tiles rest pos cs tokens) (hmem : (t, start, stop) ∈ tokens) : pos ≤ start := by
  obtain ⟨-, before, -, -, -, rfl, -⟩ := h.split hmem
  exact Nat.le_add_right _ _

theorem start_lt_stop (h : v.Tiles rest pos cs tokens) (hmem : (t, start, stop) ∈ tokens) : start < stop := by
  obtain ⟨ht, -, -, -, -, -, rfl⟩ := h.split hmem
  have hpos := extent_chars_pos ht
  omega

theorem apart (h : v.Tiles rest pos cs tokens) : tokens.Pairwise fun a b => a.2.2 ≤ b.2.1 := by
  induction h with
  | done => exact .nil
  | blank _ _ ih => exact ih
  | token _ _ hlater ih =>
    refine .cons ?_ ih
    rintro ⟨t', start, stop⟩ hmem
    exact hlater.le_start hmem

theorem taken_or_blank (h : v.Tiles rest pos cs tokens) {before after : List Char} (hcs : cs = before ++ c :: after) :
    (∃ t start stop, (t, start, stop) ∈ tokens ∧
      start ≤ pos + Stream.extent before ∧ pos + Stream.extent before < stop) ∨ v.isBlank c = true := by
  induction h generalizing before with
  | done => simp at hcs
  | @blank pos d cs tokens hd _ ih =>
    cases before with
    | nil =>
      obtain ⟨rfl, rfl⟩ := List.cons.inj hcs
      exact .inr hd
    | cons e before =>
      obtain ⟨rfl, rfl⟩ := List.cons.inj hcs
      rw [Stream.extent_cons, ← Nat.add_assoc]
      exact ih rfl
  | @token pos t cs tokens ht _ _ ih =>
    have hstarts : v.chars t <+: before ++ c :: after := ⟨cs, hcs⟩
    rcases prefix_or_longer hstarts with ⟨between, rfl⟩ | ⟨d, w, hlong, -⟩
    · -- the token is before the character
      rw [List.append_assoc] at hcs
      have hrest := ih (List.append_cancel_left hcs)
      rw [Nat.add_assoc, ← Stream.extent_append] at hrest
      rcases hrest with ⟨t', start, stop, hmem, hle, hlt⟩ | hblank
      · exact .inl ⟨t', start, stop, List.mem_cons_of_mem _ hmem, hle, hlt⟩
      · exact .inr hblank
    · have hlt : Stream.extent before < Stream.extent (v.chars t) := by
        have hwidth := Item.width_pos d
        rw [hlong, Stream.extent_append, Stream.extent_cons]
        omega
      exact .inl ⟨t, pos, _, List.mem_cons_self .., by omega, by omega⟩

/-! ## One tiling -/

theorem blanks {cs : List Char} (hblank : ∀ c ∈ cs, v.isBlank c = true) {more : List Char}
    (h : v.Tiles rest (pos + Stream.extent cs) more tokens) : v.Tiles rest pos (cs ++ more) tokens := by
  induction cs generalizing pos with
  | nil => exact h
  | cons c cs ih =>
    obtain ⟨hc, hblank⟩ := List.forall_mem_cons.1 hblank
    rw [Stream.extent_cons, ← Nat.add_assoc] at h
    exact .blank hc (ih hblank h)

theorem eq_nil (h : v.Tiles rest pos [] tokens) : tokens = [] := by
  generalize hnil : ([] : List Char) = text at h
  cases h with
  | done => rfl
  | blank => cases hnil
  | token ht =>
    obtain ⟨hchars, -⟩ := List.append_eq_nil_iff.1 hnil.symm
    exact absurd hchars (v.spelling_ne_nil ht)

theorem of_blank (hc : v.isBlank c = true) (h : v.Tiles rest pos (c :: cs) tokens) :
    v.Tiles rest (pos + Item.width c) cs tokens := by
  generalize htext : c :: cs = text at h
  cases h with
  | done => cases htext
  | blank _ h =>
    obtain ⟨rfl, rfl⟩ := List.cons.inj htext
    exact h
  | token ht =>
    have hnot := isBlank_of_starts ht ⟨_, htext.symm⟩
    rw [hc] at hnot
    cases hnot

theorem of_token (ht : v.Valid t) (hends : v.EndsBefore t (cs ++ rest)) (h : v.Tiles rest pos (v.chars t ++ cs) tokens) :
    ∃ later, tokens = (t, pos, pos + Stream.extent (v.chars t)) :: later ∧
      v.Tiles rest (pos + Stream.extent (v.chars t)) cs later := by
  generalize htext : v.chars t ++ cs = text at h
  cases h with
  | done =>
    obtain ⟨hnil, -⟩ := List.append_eq_nil_iff.1 htext
    exact absurd hnil (v.spelling_ne_nil ht)
  | blank hc =>
    have hnot := isBlank_of_starts ht ⟨_, htext⟩
    rw [hc] at hnot
    cases hnot
  | @token _ t' cs' later ht' hends' h =>
    have hwhole : v.chars t ++ (cs ++ rest) = v.chars t' ++ (cs' ++ rest) := by
      rw [← List.append_assoc, htext, List.append_assoc]
    obtain ⟨rfl, hrest⟩ := hends.unique ht ht' hends' hwhole
    obtain rfl := List.append_cancel_right hrest
    exact ⟨later, rfl, h⟩

/-- A tiling of a text begins with the tiling of its first part. -/
theorem exists_later (h : v.Tiles rest pos cs tokens) {all : List (τ × Nat × Nat)}
    (hall : v.Tiles [] pos (cs ++ rest) all) :
    ∃ later, all = tokens ++ later ∧ v.Tiles [] (pos + Stream.extent cs) rest later := by
  induction h generalizing all with
  | done => exact ⟨all, rfl, hall⟩
  | blank hc _ ih =>
    rw [Stream.extent_cons, ← Nat.add_assoc]
    exact ih (hall.of_blank hc)
  | token ht hends _ ih =>
    rw [List.append_assoc] at hall
    rw [← List.append_nil (_ ++ rest)] at hends
    obtain ⟨others, rfl, hothers⟩ := hall.of_token ht hends
    obtain ⟨later, rfl, hlater⟩ := ih hothers
    rw [Stream.extent_append, ← Nat.add_assoc]
    exact ⟨later, rfl, hlater⟩

/-! ## Tilings of other texts -/

theorem alone (h : v.Tiles rest pos cs tokens) : v.Tiles [] pos cs tokens := by
  induction h with
  | done pos => exact .done pos
  | blank hc _ ih => exact .blank hc ih
  | token ht hends _ ih =>
    refine .token ht ?_ ih
    rw [List.append_nil]
    exact hends.cut

end Tiles

/-- Tokens are read again from their spellings with a blank between any two. -/
theorem exists_joined {sep : Char} (hsep : v.isBlank sep = true) (ts : List τ) (hvalid : ∀ t ∈ ts, v.Valid t)
    (pos : Nat) :
    ∃ tokens, tokens.map (·.1) = ts ∧ v.Tiles [] pos ([sep].intercalate (ts.map v.chars)) tokens := by
  induction ts generalizing pos with
  | nil => exact ⟨[], rfl, .done pos⟩
  | cons t ts ih =>
    have ht : v.Valid t := hvalid t (List.mem_cons_self ..)
    have hlater := ih fun t' ht' => hvalid t' (List.mem_cons_of_mem _ ht')
    cases ts with
    | nil =>
      refine ⟨[(t, pos, pos + Stream.extent (v.chars t))], rfl, ?_⟩
      rw [List.map_singleton, List.intercalate_singleton]
      have htile : v.Tiles [] pos (v.chars t ++ []) [(t, pos, pos + Stream.extent (v.chars t))] :=
        .token ht (endsBefore_nil v t) (.done _)
      rwa [List.append_nil] at htile
    | cons t' ts =>
      obtain ⟨tokens, hmap, htiles⟩ := hlater (pos + Stream.extent (v.chars t) + Item.width sep)
      refine ⟨(t, pos, pos + Stream.extent (v.chars t)) :: tokens, ?_, ?_⟩
      · rw [List.map_cons, hmap]
      · rw [List.map_cons, List.map_cons, List.intercalate_cons_cons, List.append_assoc, ← List.map_cons]
        exact .token ht (endsBefore_blank hsep t _) (.blank hsep htiles)

end Vocabulary

end Descent
