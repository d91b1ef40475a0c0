import Descent.Lexer.Rules
import Descent.Proofs.Tiling

/-!
# Lexing

`l.Reads v`: what the delegates of a lexer do that is made from the patterns of a vocabulary. Such a delegate passes over
blanks, takes the longest token, and where no token starts it stops over one character; it tells the span and the slice
of what it has read last.

The loop over a delegate collects a tiling of what is ahead of it, or it stops where no tiling goes on
(`Reads.collect_cases`). A text has no more than one tiling (`Tiles.exists_later`), so a lexer succeeds with a tiling of
the whole text if there is one (`Reads.tokenizeSpanned_of_tiles`).

A lexer by rules reads a vocabulary if its rules do (`Rules.Reads.lexer`).
-/

namespace Descent

/-- There is something left, but neither a blank nor a token starts it. -/
def Vocabulary.Stuck {τ : Type} (v : Vocabulary τ) : List Char → Prop
  | [] => False
  | c :: cs => v.isBlank c = false ∧ ∀ t, v.Valid t → ¬v.chars t <+: c :: cs

theorem Vocabulary.Tiles.not_stuck {τ : Type} {v : Vocabulary τ} {rest cs : List Char} {pos : Nat}
    {tokens : List (τ × Nat × Nat)} (h : v.Tiles rest pos cs tokens) : ¬v.Stuck cs := by
  intro hstuck
  cases h with
  | done => exact hstuck
  | blank hc =>
    rw [hstuck.1] at hc
    cases hc
  | @token _ t cs _ ht =>
    obtain ⟨c, w, hchars⟩ := exists_chars_eq_cons ht
    rw [hchars] at hstuck
    refine hstuck.2 t ht ?_
    rw [hchars]
    exact List.prefix_append _ _

namespace Lexer

variable {τ : Type}

/-- The delegates that come up while a lexer goes through a source. -/
inductive Reaches (l : Lexer τ) (source : String) : l.Delegate → Prop
  | start : Reaches l source (l.start source)
  | next {d d' : l.Delegate} {token : Except Unit τ} (hd : Reaches l source d) (hnext : l.next d = some (token, d')) :
      Reaches l source d'

/-- What is left of a source behind what a delegate has read last. -/
def ahead (l : Lexer τ) (source : String) (d : l.Delegate) : List Char := (Stream.ofString source).rest (l.span d).2

/-- The delegates of a lexer take the longest tokens of a vocabulary. -/
structure Reads (l : Lexer τ) (v : Vocabulary τ) : Prop where
  start : ∀ source, (l.span (l.start source)).2 = 0
  /-- What has been read last is what the source has between the offsets of its span. -/
  slice : ∀ {source d}, l.Reaches source d →
    (Stream.ofString source).cut? (l.span d).1 (l.span d).2 = some (l.slice d).toList
  /-- At the end nothing is left but blanks. -/
  finished : ∀ {source d}, l.Reaches source d → l.next d = none → ∀ c ∈ l.ahead source d, v.isBlank c = true
  /-- Behind blanks a token is taken, and no token takes more. -/
  token : ∀ {source d t d'}, l.Reaches source d → l.next d = some (.ok t, d') → ∃ blanks behind,
    l.ahead source d = blanks ++ v.chars t ++ behind ∧ (∀ c ∈ blanks, v.isBlank c = true) ∧
    v.Valid t ∧ v.EndsBefore t behind ∧
    l.span d' = ((l.span d).2 + Stream.extent blanks, (l.span d).2 + Stream.extent (blanks ++ v.chars t))
  /-- Behind blanks one character is refused, and only if no token starts there. -/
  unmatched : ∀ {source d e d'}, l.Reaches source d → l.next d = some (.error e, d') → ∃ blanks c behind,
    l.ahead source d = blanks ++ c :: behind ∧ (∀ c ∈ blanks, v.isBlank c = true) ∧ v.Stuck (c :: behind) ∧
    l.span d' = ((l.span d).2 + Stream.extent blanks, (l.span d).2 + Stream.extent (blanks ++ [c]))

variable {l : Lexer τ} {v : Vocabulary τ} {t : τ} {c : Char} {cs rest : List Char} {source : String}
  {d d' : l.Delegate} {tokens : List (τ × Nat × Nat)}

namespace Reads

/-! ## Where a delegate is -/

theorem exists_read (hl : l.Reads v) (hd : l.Reaches source d) :
    ∃ read, source.toList = read ++ l.ahead source d ∧ Stream.extent read = (l.span d).2 := by
  obtain ⟨before, behind, hsource, -, hstop⟩ := Stream.cut?_eq_some_iff.1 (hl.slice hd)
  have hahead : l.ahead source d = behind := by
    rw [Stream.ofString, Stream.items_ofList] at hsource
    rw [ahead, Stream.ofString, hsource, ← hstop, Stream.rest_append]
  exact ⟨before ++ (l.slice d).toList, by rw [hahead]; exact hsource, hstop⟩

theorem ahead_start (hl : l.Reads v) (source : String) : l.ahead source (l.start source) = source.toList := by
  rw [ahead, hl.start, Stream.rest_zero, Stream.ofString, Stream.items_ofList]

theorem ahead_of_stop (hl : l.Reads v) (hd : l.Reaches source d) {taken behind : List Char}
    (hahead : l.ahead source d = taken ++ behind) (hstop : (l.span d').2 = (l.span d).2 + Stream.extent taken) :
    l.ahead source d' = behind := by
  obtain ⟨read, hsource, hread⟩ := hl.exists_read hd
  rw [ahead, Stream.ofString, hsource, hahead, hstop, ← hread, ← List.append_assoc, ← Stream.extent_append,
    Stream.rest_append]

theorem slice_of_span (hl : l.Reads v) (hd : l.Reaches source d) (hd' : l.Reaches source d')
    {blanks lexeme behind : List Char} (hahead : l.ahead source d = blanks ++ lexeme ++ behind)
    (hspan : l.span d' = ((l.span d).2 + Stream.extent blanks, (l.span d).2 + Stream.extent (blanks ++ lexeme))) :
    l.slice d' = String.ofList lexeme := by
  obtain ⟨read, hsource, hread⟩ := hl.exists_read hd
  have hcut : (Stream.ofString source).cut? (l.span d').1 (l.span d').2 = some lexeme := by
    refine Stream.cut?_eq_some_iff.2 ⟨read ++ blanks, behind, ?_, ?_, ?_⟩
    · rw [Stream.ofString, Stream.items_ofList, hsource, hahead]
      simp only [List.append_assoc]
    · rw [Stream.extent_append, hread, hspan]
    · rw [List.append_assoc, Stream.extent_append, hread, hspan]
  rw [hl.slice hd'] at hcut
  rw [← Option.some.inj hcut, String.ofList_toList]

/-! ## One step -/

/-- The token that a delegate reads comes before any tiling of what is then ahead of it. -/
theorem tiles_of_token (hl : l.Reads v) (hd : l.Reaches source d) (hnext : l.next d = some (.ok t, d')) :
    ∃ read, l.ahead source d = read ++ l.ahead source d' ∧ (l.span d').2 = (l.span d).2 + Stream.extent read ∧
      ∀ {cs rest tokens}, l.ahead source d' = cs ++ rest → v.Tiles rest (l.span d').2 cs tokens →
        v.Tiles rest (l.span d).2 (read ++ cs) ((t, l.span d') :: tokens) := by
  obtain ⟨blanks, behind, hahead, hblanks, ht, hends, hspan⟩ := hl.token hd hnext
  have hbehind : l.ahead source d' = behind := hl.ahead_of_stop hd hahead (by rw [hspan])
  refine ⟨blanks ++ v.chars t, by rw [hbehind, hahead], by rw [hspan], fun {cs rest tokens} hcs htiles => ?_⟩
  rw [← hbehind, hcs] at hends
  rw [hspan, Stream.extent_append, ← Nat.add_assoc] at htiles ⊢
  rw [List.append_assoc]
  exact .blanks hblanks (.token ht hends htiles)

theorem stuck_of_unmatched (hl : l.Reads v) (hd : l.Reaches source d) {e : Unit}
    (hnext : l.next d = some (.error e, d')) :
    ∃ cs c rest, l.ahead source d = cs ++ c :: rest ∧ v.Tiles (c :: rest) (l.span d).2 cs [] ∧ v.Stuck (c :: rest) ∧
      l.span d' = ((l.span d).2 + Stream.extent cs, (l.span d).2 + Stream.extent (cs ++ [c])) ∧
      l.slice d' = String.singleton c := by
  obtain ⟨blanks, c, behind, hahead, hblanks, hstuck, hspan⟩ := hl.unmatched hd hnext
  have htiles : v.Tiles (c :: behind) (l.span d).2 (blanks ++ []) [] := .blanks hblanks (.done _)
  rw [List.append_nil] at htiles
  have hparts : l.ahead source d = blanks ++ [c] ++ behind := by rw [hahead, List.append_assoc, List.singleton_append]
  exact ⟨blanks, c, behind, hahead, htiles, hstuck, hspan, hl.slice_of_span hd (hd.next hnext) hparts hspan⟩

/-! ## The loop -/

/-- The loop over a delegate collects a tiling of what is ahead of it, or it stops where no token starts. -/
theorem collect_cases (hl : l.Reads v) (hd : l.Reaches source d) (found : Array (τ × Nat × Nat)) :
    (∃ tokens, v.Tiles [] (l.span d).2 (l.ahead source d) tokens ∧
      l.collect d found = .ok (found.toList ++ tokens)) ∨
    ∃ cs c rest tokens, l.ahead source d = cs ++ c :: rest ∧ v.Tiles (c :: rest) (l.span d).2 cs tokens ∧
      v.Stuck (c :: rest) ∧
      l.collect d found
        = .error ⟨String.singleton c, (l.span d).2 + Stream.extent cs, (l.span d).2 + Stream.extent (cs ++ [c])⟩ := by
  fun_induction l.collect d found with
  | case1 d found hnext =>
    have htiles : v.Tiles [] (l.span d).2 (l.ahead source d ++ []) [] := .blanks (hl.finished hd hnext) (.done _)
    rw [List.append_nil] at htiles
    exact .inl ⟨[], htiles, by rw [List.append_nil]⟩
  | case2 d found t d' hnext ih =>
    obtain ⟨read, hahead, hstop, hmore⟩ := hl.tiles_of_token hd hnext
    rw [hahead]
    rcases ih (hd.next hnext) with ⟨tokens, htiles, hok⟩ | ⟨cs, c, rest, tokens, hcs, htiles, hstuck, herror⟩
    · refine .inl ⟨(t, l.span d') :: tokens, hmore (List.append_nil _).symm htiles, ?_⟩
      rw [hok]
      simp
    · refine .inr ⟨read ++ cs, c, rest, _, by rw [hcs, List.append_assoc], hmore hcs htiles, hstuck, ?_⟩
      rw [herror, hstop]
      simp only [List.append_assoc, Stream.extent_append, Nat.add_assoc]
  | case3 d found e d' hnext =>
    obtain ⟨cs, c, rest, hahead, htiles, hstuck, hspan, hslice⟩ := hl.stuck_of_unmatched hd hnext
    refine .inr ⟨cs, c, rest, [], hahead, htiles, hstuck, ?_⟩
    rw [hspan, hslice]

/-! ## Whole texts -/

/-- The lexer succeeds with a tiling of the whole text, or it fails where the tiling cannot go on. -/
theorem tokenizeSpanned_cases (hl : l.Reads v) (source : String) :
    (∃ tokens, l.tokenizeSpanned source = some (.ok tokens) ∧ v.Tiles [] 0 source.toList tokens) ∨
      ∃ cs c rest tokens, source.toList = cs ++ c :: rest ∧ v.Tiles (c :: rest) 0 cs tokens ∧ v.Stuck (c :: rest) ∧
        l.tokenizeSpanned source
          = some (.error ⟨String.singleton c, Stream.extent cs, Stream.extent cs + Item.width c⟩) := by
  have hloop := hl.collect_cases (.start : l.Reaches source (l.start source)) #[]
  rw [hl.ahead_start, hl.start] at hloop
  rcases hloop with ⟨tokens, htiles, hok⟩ | ⟨cs, c, rest, tokens, hsource, htiles, hstuck, herror⟩
  · refine .inl ⟨tokens, ?_, htiles⟩
    rw [tokenizeSpanned, hok]
    rfl
  · refine .inr ⟨cs, c, rest, tokens, hsource, htiles, hstuck, ?_⟩
    rw [tokenizeSpanned, herror, Nat.zero_add, Nat.zero_add, Stream.extent_append]
    rfl

theorem tokenizeSpanned_of_tiles (hl : l.Reads v) (h : v.Tiles [] 0 source.toList tokens) :
    l.tokenizeSpanned source = some (.ok tokens) := by
  rcases hl.tokenizeSpanned_cases source with ⟨tokens', hok, htiles⟩ | ⟨cs, c, rest, tokens', hsource, htiles, hstuck, -⟩
  · rw [← List.append_nil source.toList] at h
    obtain ⟨later, rfl, hlater⟩ := htiles.exists_later h
    rw [hok, hlater.eq_nil, List.append_nil]
  · rw [hsource] at h
    obtain ⟨later, -, hlater⟩ := htiles.exists_later h
    exact absurd hstuck hlater.not_stuck

theorem tiles_of_tokenizeSpanned (hl : l.Reads v) (h : l.tokenizeSpanned source = some (.ok tokens)) :
    v.Tiles [] 0 source.toList tokens := by
  rcases hl.tokenizeSpanned_cases source with ⟨tokens', hok, htiles⟩ | ⟨cs, c, rest, tokens', -, -, -, herror⟩
  · rw [hok] at h
    obtain rfl : tokens' = tokens := Except.ok.inj (Option.some.inj h)
    exact htiles
  · rw [herror] at h
    cases h

theorem stuck_of_tokenizeSpanned (hl : l.Reads v) {e : LexError} (h : l.tokenizeSpanned source = some (.error e)) :
    ∃ cs c rest tokens, source.toList = cs ++ c :: rest ∧ v.Tiles (c :: rest) 0 cs tokens ∧ v.Stuck (c :: rest) ∧
      e = ⟨String.singleton c, Stream.extent cs, Stream.extent cs + Item.width c⟩ := by
  rcases hl.tokenizeSpanned_cases source with ⟨tokens', hok, -⟩ | ⟨cs, c, rest, tokens, hsource, htiles, hstuck, herror⟩
  · rw [hok] at h
    cases h
  · rw [herror] at h
    exact ⟨cs, c, rest, tokens, hsource, htiles, hstuck, (Except.error.inj (Option.some.inj h)).symm⟩

end Reads

theorem tokenize_of_spanned {result : Except LexError (List (τ × Nat × Nat))}
    (h : l.tokenizeSpanned source = some result) : l.tokenize source = some (result.map (List.map (·.1))) := by
  rw [tokenize, h]
  rfl

/-! ## Lexers by rules -/

/-- What is before a cursor, what it has read last, and what is left are the source. -/
def Cursor.InSource (source : String) (k : Cursor) : Prop :=
  ∃ before, source.toList = before ++ k.lexeme ++ k.rest ∧ Stream.extent before = k.start ∧
    Stream.extent (before ++ k.lexeme) = k.stop

namespace Rules

variable {r : Rules τ}

/-- The rules take the longest token of the vocabulary. -/
structure Reads (r : Rules τ) (v : Vocabulary τ) : Prop where
  blank : ∀ c, r.isBlank c = v.isBlank c
  longest : ∀ {c cs t more}, v.isBlank c = false → r.next c cs = (some t, more) →
    v.Valid t ∧ v.chars t = c :: cs.take more ∧ v.EndsBefore t (cs.drop more)
  unmatched : ∀ {c cs more}, v.isBlank c = false → r.next c cs = (none, more) →
    more = 0 ∧ ∀ t, v.Valid t → ¬v.chars t <+: c :: cs

theorem advance_eq_none {text : List Char} {pos : Nat} (h : r.advance text pos = none) :
    ∀ c ∈ text, r.isBlank c = true := by
  induction text generalizing pos with
  | nil => exact List.forall_mem_nil _
  | cons c cs ih =>
    rw [advance] at h
    split_ifs at h with hc
    exact List.forall_mem_cons.2 ⟨hc, ih h⟩

theorem advance_eq_some {text : List Char} {pos : Nat} {token : Except Unit τ} {k : Cursor}
    (h : r.advance text pos = some (token, k)) :
    ∃ blanks c cs, text = blanks ++ c :: cs ∧ (∀ c ∈ blanks, r.isBlank c = true) ∧ r.isBlank c = false ∧
      token = (r.next c cs).1.elim (.error ()) .ok ∧
      k = ⟨c :: cs.take (r.next c cs).2, pos + Stream.extent blanks,
        pos + Stream.extent (blanks ++ c :: cs.take (r.next c cs).2), cs.drop (r.next c cs).2⟩ := by
  induction text generalizing pos with
  | nil => cases h
  | cons c cs ih =>
    rw [advance] at h
    split_ifs at h with hc
    · obtain ⟨blanks, b, bs, rfl, hblanks, hb, htoken, hk⟩ := ih h
      refine ⟨c :: blanks, b, bs, rfl, List.forall_mem_cons.2 ⟨hc, hblanks⟩, hb, htoken, ?_⟩
      rw [hk, List.cons_append, Stream.extent_cons, Stream.extent_cons, Nat.add_assoc, Nat.add_assoc]
    · obtain ⟨htoken, hk⟩ := Prod.mk.inj (Option.some.inj h)
      exact ⟨[], c, cs, rfl, List.forall_mem_nil _, Bool.eq_false_iff.2 hc, htoken.symm, hk.symm⟩

theorem inSource_advance {k k' : Cursor} {token : Except Unit τ} (hk : k.InSource source)
    (hnext : r.advance k.rest k.stop = some (token, k')) : k'.InSource source := by
  obtain ⟨before, hsource, -, hstop⟩ := hk
  obtain ⟨blanks, c, cs, hrest, -, -, -, rfl⟩ := advance_eq_some hnext
  refine ⟨before ++ k.lexeme ++ blanks, ?_, ?_, ?_⟩
  · rw [hsource, hrest]
    simp only [List.append_assoc, List.cons_append, List.take_append_drop]
  · rw [Stream.extent_append, hstop]
  · rw [List.append_assoc, Stream.extent_append, hstop]

theorem inSource_of_reaches {k : r.lexer.Delegate} (hk : r.lexer.Reaches source k) : Cursor.InSource source k := by
  induction hk with
  | start => exact ⟨[], rfl, rfl, rfl⟩
  | next _ hnext ih => exact inSource_advance ih hnext

theorem ahead_of_reaches {k : Cursor} (hk : r.lexer.Reaches source k) : r.lexer.ahead source k = k.rest := by
  obtain ⟨before, hsource, -, hstop⟩ := inSource_of_reaches hk
  show (Stream.ofString source).rest k.stop = k.rest
  rw [Stream.ofString, hsource, ← hstop, Stream.rest_append]

theorem Reads.lexer (hr : r.Reads v) : r.lexer.Reads v where
  start _ := rfl
  slice {source} (k : Cursor) hk := by
    obtain ⟨before, hsource, hstart, hstop⟩ := inSource_of_reaches hk
    have hlexeme : (r.lexer.slice k).toList = k.lexeme := String.toList_ofList
    rw [hlexeme]
    exact Stream.cut?_eq_some_iff.2 ⟨before, k.rest, hsource, hstart, hstop⟩
  finished hk hnext := by
    rw [ahead_of_reaches hk]
    intro c hc
    rw [← hr.blank]
    exact advance_eq_none hnext c hc
  token hk hnext := by
    obtain ⟨blanks, c, cs, hrest, hblanks, hc, htoken, rfl⟩ := advance_eq_some hnext
    simp only [hr.blank] at hblanks hc
    rcases hrule : r.next c cs with ⟨_ | t', more⟩
    · rw [hrule] at htoken
      cases htoken
    · rw [hrule] at htoken
      obtain rfl := Except.ok.inj htoken
      obtain ⟨ht, hchars, hends⟩ := hr.longest hc hrule
      refine ⟨blanks, cs.drop more, ?_, hblanks, ht, hends, ?_⟩
      · rw [ahead_of_reaches hk, hrest, hchars, List.append_assoc, List.cons_append, List.take_append_drop]
      · rw [hchars]
        rfl
  unmatched hk hnext := by
    obtain ⟨blanks, c, cs, hrest, hblanks, hc, htoken, rfl⟩ := advance_eq_some hnext
    simp only [hr.blank] at hblanks hc
    rcases hrule : r.next c cs with ⟨_ | t', more⟩
    · obtain ⟨rfl, hnone⟩ := hr.unmatched hc hrule
      refine ⟨blanks, c, cs, ?_, hblanks, ⟨hc, hnone⟩, rfl⟩
      rw [ahead_of_reaches hk, hrest]
    · rw [hrule] at htoken
      cases htoken

end Rules

end Lexer

end Descent
