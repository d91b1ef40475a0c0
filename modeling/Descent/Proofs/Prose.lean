import Descent.Lexer.Words
import Descent.Proofs.Lexing
import Mathlib.Data.List.TakeWhile

/-!
# Words and punctuation marks

The tokens of prose are written as words of letters and hyphens and as single marks (`vocabulary`). A word is the longest
one if no letter or hyphen is behind it (`endsBefore_word_iff`), and a mark always is (`endsBefore_mark`). So the lexer of
prose takes the longest token (`lexer_reads`).

Every lexer that does so lexes a text into tokens that tile it, or stops at the first character that is neither blank nor
the start of a token (`lexing_tiles`).
-/

namespace Descent.Words

namespace Token

def spelling : Token → String
  | word s => s
  | comma => ","
  | dot => "."
  | bang => "!"
  | question => "?"

/-- A word is made of letters and hyphens, at least one. -/
def Valid : Token → Prop
  | word s => s.toList ≠ [] ∧ ∀ c ∈ s.toList, isWordChar c = true
  | _ => True

end Token

variable {t : Token} {c : Char} {w : String} {rest : List Char}

/-! ## The vocabulary -/

theorem mark_eq_some_iff : mark? c = some t ↔ t.isWord = false ∧ t.spelling.toList = [c] := by
  constructor
  · intro h
    rw [mark?.eq_def] at h
    split at h <;> cases h <;> exact ⟨rfl, by decide⟩
  · rintro ⟨hmark, hspelling⟩
    cases t with
    | word => cases hmark
    | _ =>
      obtain rfl := (List.cons.inj hspelling).1
      rfl

theorem isWordChar_of_mark (h : mark? c = some t) : isWordChar c = false := by
  rw [mark?.eq_def] at h
  split at h <;> first | decide | cases h

theorem isPlainBlank_eq_true_iff : Lexer.isPlainBlank c = true ↔ c = ' ' ∨ c = '\t' ∨ c = '\r' ∨ c = '\n' := by
  simp [Lexer.isPlainBlank, or_assoc]

theorem isPlainBlank_of_isWordChar (h : isWordChar c = true) : Lexer.isPlainBlank c = false := by
  rw [← Bool.not_eq_true, isPlainBlank_eq_true_iff]
  rintro (rfl | rfl | rfl | rfl) <;> revert h <;> decide

theorem isPlainBlank_of_mark (h : mark? c = some t) : Lexer.isPlainBlank c = false := by
  rw [← Bool.not_eq_true, isPlainBlank_eq_true_iff]
  rintro (rfl | rfl | rfl | rfl) <;> cases h

theorem Token.Valid.word_or_mark (ht : t.Valid) :
    (∃ w, t = .word w ∧ w.toList ≠ [] ∧ ∀ c ∈ w.toList, isWordChar c = true) ∨
      ∃ c, mark? c = some t ∧ t.spelling.toList = [c] := by
  cases t with
  | word w => exact .inl ⟨w, rfl, ht⟩
  | comma => exact .inr ⟨',', rfl, by decide⟩
  | dot => exact .inr ⟨'.', rfl, by decide⟩
  | bang => exact .inr ⟨'!', rfl, by decide⟩
  | question => exact .inr ⟨'?', rfl, by decide⟩

theorem Token.not_blank (ht : t.Valid) (hc : c ∈ t.spelling.toList) : Lexer.isPlainBlank c = false := by
  rcases ht.word_or_mark with ⟨w, rfl, -, hword⟩ | ⟨d, hmark, hspelling⟩
  · exact isPlainBlank_of_isWordChar (hword c hc)
  · rw [hspelling, List.mem_singleton] at hc
    rw [hc]
    exact isPlainBlank_of_mark hmark

theorem Token.spelling_ne_nil (ht : t.Valid) : t.spelling.toList ≠ [] := by
  rcases ht.word_or_mark with ⟨w, rfl, hword, -⟩ | ⟨c, -, hspelling⟩
  · exact hword
  · rw [hspelling]
    exact List.cons_ne_nil _ _

theorem Token.mark_not_mem_word (hw : (word w).Valid) (hmark : mark? c = some t) : c ∉ w.toList := by
  intro hmem
  have hword : isWordChar c = true := hw.2 c hmem
  rw [isWordChar_of_mark hmark] at hword
  cases hword

theorem Token.spelling_injective {t' : Token} (ht : t.Valid) (ht' : t'.Valid) (h : t.spelling = t'.spelling) :
    t = t' := by
  rcases ht.word_or_mark with ⟨w, rfl, -⟩ | ⟨c, hmark, hspelling⟩
  · rcases ht'.word_or_mark with ⟨w', rfl, -⟩ | ⟨c', hmark', hspelling'⟩
    · exact congrArg word h
    · refine absurd ?_ (mark_not_mem_word ht hmark')
      rw [← h] at hspelling'
      exact hspelling' ▸ List.mem_singleton_self c'
  · rcases ht'.word_or_mark with ⟨w', rfl, -⟩ | ⟨c', hmark', hspelling'⟩
    · refine absurd ?_ (mark_not_mem_word ht' hmark)
      rw [h] at hspelling
      exact hspelling ▸ List.mem_singleton_self c
    · rw [h, hspelling'] at hspelling
      obtain ⟨rfl, -⟩ := List.cons.inj hspelling
      exact Option.some.inj (hmark.symm.trans hmark')

/-- Words, the four marks, and the characters that may stand between them. -/
def vocabulary : Vocabulary Token where
  isBlank := Lexer.isPlainBlank
  spelling := Token.spelling
  Valid := Token.Valid
  spelling_ne_nil := Token.spelling_ne_nil
  not_blank := Token.not_blank
  spelling_injective := Token.spelling_injective

@[simp] theorem chars_vocabulary : vocabulary.chars t = t.spelling.toList := rfl

/-! ## The longest token -/

theorem isWordChar_of_longer {t' : Token} {more : List Char} (ht : t.Valid) (ht' : t'.Valid)
    (hlonger : vocabulary.chars t' = vocabulary.chars t ++ c :: more) :
    ∀ d ∈ vocabulary.chars t', isWordChar d = true := by
  rcases ht'.word_or_mark with ⟨w, rfl, -, hword⟩ | ⟨d, -, hspelling⟩
  · exact hword
  · have hlength : (vocabulary.chars t').length = 1 := congrArg List.length hspelling
    have hpos : 0 < (vocabulary.chars t).length := List.length_pos_of_ne_nil (Token.spelling_ne_nil ht)
    rw [hlonger, List.length_append, List.length_cons] at hlength
    omega

theorem endsBefore_of_not_isWordChar (ht : t.Valid) (hrest : ∀ c ∈ rest.head?, isWordChar c = false) :
    vocabulary.EndsBefore t rest := by
  intro t' ht' hstarts
  rcases prefix_or_longer hstarts with hshort | ⟨c, more, hlonger, hover⟩
  · exact hshort
  · have hc : isWordChar c = true := by
      refine isWordChar_of_longer ht ht' hlonger c ?_
      rw [hlonger]
      exact List.mem_append_right _ (List.mem_cons_self ..)
    obtain ⟨behind, rfl⟩ := hover
    rw [hrest c rfl] at hc
    cases hc

theorem endsBefore_mark (ht : t.Valid) (hmark : mark? c = some t) (rest : List Char) :
    vocabulary.EndsBefore t rest := by
  intro t' ht' hstarts
  rcases prefix_or_longer hstarts with hshort | ⟨d, more, hlonger, -⟩
  · exact hshort
  · have hc : isWordChar c = true := by
      refine isWordChar_of_longer ht ht' hlonger c ?_
      have hspelling : vocabulary.chars t = [c] := (mark_eq_some_iff.1 hmark).2
      rw [hlonger, hspelling]
      exact List.mem_cons_self ..
    rw [isWordChar_of_mark hmark] at hc
    cases hc

theorem endsBefore_word_iff (hw : (Token.word w).Valid) :
    vocabulary.EndsBefore (.word w) rest ↔ ∀ c ∈ rest.head?, isWordChar c = false := by
  refine ⟨fun hends c hc => ?_, endsBefore_of_not_isWordChar hw⟩
  rw [← Bool.not_eq_true]
  intro hword
  obtain ⟨behind, rfl⟩ : ∃ behind, rest = c :: behind := List.head?_eq_some_iff.1 hc
  -- with the character it would be a longer word
  have hlonger : (Token.word (w.push c)).Valid := by
    rw [Token.Valid, String.toList_push]
    refine ⟨List.append_ne_nil_of_right_ne_nil _ (List.cons_ne_nil _ _), fun d hd => ?_⟩
    rcases List.mem_append.1 hd with hd | hd
    · exact hw.2 d hd
    · rwa [List.mem_singleton.1 hd]
  have hshort := hends (.word (w.push c)) hlonger ⟨behind, by simp [Token.spelling]⟩
  have hlength := hshort.length_le
  rw [chars_vocabulary, chars_vocabulary, Token.spelling, Token.spelling, String.toList_push, List.length_append,
    List.length_singleton] at hlength
  omega

/-! ## The first character of a token -/

theorem first_of_token {cs : List Char} (ht : t.Valid) (hchars : t.spelling.toList = c :: cs) :
    isWordChar c = true ∨ mark? c = some t := by
  rcases ht.word_or_mark with ⟨w, rfl, -, hword⟩ | ⟨d, hmark, hspelling⟩
  · refine .inl (hword c ?_)
    rw [Token.spelling] at hchars
    rw [hchars]
    exact List.mem_cons_self ..
  · rw [hspelling] at hchars
    obtain ⟨rfl, -⟩ := List.cons.inj hchars
    exact .inr hmark

theorem exists_token_of_first {cs : List Char} (ht : t.Valid) (hchars : t.spelling.toList = c :: cs) :
    ∃ t' : Token, t'.Valid ∧ t'.spelling.toList = [c] := by
  rcases first_of_token ht hchars with hword | hmark
  · refine ⟨.word (String.singleton c), ⟨?_, ?_⟩, ?_⟩ <;> simp [Token.spelling, hword]
  · exact ⟨t, ht, (mark_eq_some_iff.1 hmark).2⟩

theorem valid_of_mark (hmark : mark? c = some t) : t.Valid := by
  cases t with
  | word w => cases (mark_eq_some_iff.1 hmark).1
  | _ => trivial

/-! ## The lexer of prose -/

theorem next_of_isWordChar (hc : isWordChar c = true) (cs : List Char) :
    rules.next c cs
      = (some (.word (String.ofList (c :: cs.takeWhile isWordChar))), (cs.takeWhile isWordChar).length) := if_pos hc

theorem next_of_not_isWordChar (hc : isWordChar c = false) (cs : List Char) : rules.next c cs = (mark? c, 0) :=
  if_neg (Bool.eq_false_iff.1 hc)

theorem longest_word (hc : isWordChar c = true) (cs : List Char) :
    (Token.word (String.ofList (c :: cs.takeWhile isWordChar))).Valid ∧
      vocabulary.EndsBefore (.word (String.ofList (c :: cs.takeWhile isWordChar))) (cs.dropWhile isWordChar) := by
  have hvalid : (Token.word (String.ofList (c :: cs.takeWhile isWordChar))).Valid := by
    rw [Token.Valid, String.toList_ofList]
    refine ⟨List.cons_ne_nil _ _, fun d hd => ?_⟩
    rcases List.mem_cons.1 hd with rfl | hd
    · exact hc
    · exact List.mem_takeWhile_imp hd
  refine ⟨hvalid, endsBefore_of_not_isWordChar hvalid fun d hd => ?_⟩
  have hnot := List.head?_dropWhile_not isWordChar cs
  rw [hd] at hnot
  simpa using hnot

theorem rules_reads : rules.Reads vocabulary where
  blank _ := rfl
  longest := by
    intro c cs t more _ hnext
    cases hc : isWordChar c with
    | true =>
      rw [next_of_isWordChar hc] at hnext
      obtain ⟨hword, rfl⟩ := Prod.mk.inj hnext
      obtain rfl := Option.some.inj hword
      have htake : cs.take (cs.takeWhile isWordChar).length = cs.takeWhile isWordChar :=
        (List.prefix_iff_eq_take.1 (List.takeWhile_prefix _)).symm
      have hdrop : cs.drop (cs.takeWhile isWordChar).length = cs.dropWhile isWordChar := by
        have hparts := List.take_append_drop (cs.takeWhile isWordChar).length cs
        rw [htake] at hparts
        exact List.append_cancel_left (hparts.trans List.takeWhile_append_dropWhile.symm)
      obtain ⟨ht, hends⟩ := longest_word hc cs
      refine ⟨ht, ?_, ?_⟩
      · rw [htake, chars_vocabulary, Token.spelling, String.toList_ofList]
      · rwa [hdrop]
    | false =>
      rw [next_of_not_isWordChar hc] at hnext
      obtain ⟨hmark, rfl⟩ := Prod.mk.inj hnext
      have ht := valid_of_mark hmark
      exact ⟨ht, (mark_eq_some_iff.1 hmark).2, endsBefore_mark ht hmark _⟩
  unmatched := by
    intro c cs more _ hnext
    cases hc : isWordChar c with
    | true =>
      rw [next_of_isWordChar hc] at hnext
      cases hnext
    | false =>
      rw [next_of_not_isWordChar hc] at hnext
      obtain ⟨hmark, rfl⟩ := Prod.mk.inj hnext
      refine ⟨rfl, fun t ht hstarts => ?_⟩
      obtain ⟨d, w, hchars⟩ := Vocabulary.exists_chars_eq_cons ht
      rw [hchars, List.cons_prefix_cons] at hstarts
      obtain ⟨rfl, -⟩ := hstarts
      rcases first_of_token ht hchars with hword | hsome
      · rw [hc] at hword
        cases hword
      · rw [hmark] at hsome
        cases hsome

theorem lexer_reads : lexer.Reads vocabulary := rules_reads.lexer

/-! ## Texts and their tokens -/

/-- The spans of the tokens are cuts of the text that hold their spellings, one behind another. What no span holds is
blank, and a word is not followed at once by a character of words. -/
structure Tiled (source : String) (tokens : List (Token × Nat × Nat)) : Prop where
  nonempty : ∀ t start stop, (t, start, stop) ∈ tokens → start < stop
  apart : tokens.Pairwise fun a b => a.2.2 ≤ b.2.1
  spelled : ∀ t start stop, (t, start, stop) ∈ tokens →
    t.Valid ∧ (Stream.ofString source).cut? start stop = some t.spelling.toList
  blank : ∀ pos c next, (Stream.ofString source).itemAt pos = some (c, next) →
    (∀ t start stop, (t, start, stop) ∈ tokens → pos < start ∨ stop ≤ pos) → Lexer.isPlainBlank c = true
  separate : ∀ w start stop, (Token.word w, start, stop) ∈ tokens → ∀ c next,
    (Stream.ofString source).itemAt stop = some (c, next) → isWordChar c = false

/-- The error is a cut of the text that holds one character, which is not blank and starts no token. What is before it
falls into tokens. -/
structure BadAt (l : Lexer Token) (source : String) (e : LexError) : Prop where
  cut : (Stream.ofString source).cut? e.start e.stop = some e.slice.toList
  bad : ∃ c, e.slice = String.singleton c ∧ Lexer.isPlainBlank c = false ∧
    ∀ t : Token, t.Valid → ¬[c] <+: t.spelling.toList
  before : ∃ before tokens, (Stream.ofString source).cut? 0 e.start = some before ∧
    l.tokenizeSpanned (String.ofList before) = some (.ok tokens)

variable {source : String} {tokens : List (Token × Nat × Nat)}

theorem tiled_of_tiles (h : vocabulary.Tiles [] 0 source.toList tokens) : Tiled source tokens where
  nonempty _ _ _ hmem := h.start_lt_stop hmem
  apart := h.apart
  spelled := by
    intro t start stop hmem
    obtain ⟨ht, before, after, hsource, -, rfl, rfl⟩ := h.split hmem
    refine ⟨ht, Stream.cut?_eq_some_iff.2 ⟨before, after, hsource, (Nat.zero_add _).symm, ?_⟩⟩
    rw [Stream.extent_append, Nat.zero_add]
    rfl
  blank := by
    intro pos c next hitem hout
    obtain ⟨before, after, hsource, rfl, -⟩ := Stream.split_itemAt hitem
    have htext : source.toList = before ++ c :: after := by
      rw [← List.singleton_append, ← List.append_assoc]
      exact hsource
    rcases h.taken_or_blank htext with ⟨t, start, stop, hmem, hle, hlt⟩ | hblank
    · rcases hout t start stop hmem with hbefore | hbehind <;> omega
    · exact hblank
  separate := by
    intro w start stop hmem c next hitem
    obtain ⟨hw, before, after, hsource, hends, rfl, rfl⟩ := h.split hmem
    rw [List.append_nil, endsBefore_word_iff hw] at hends
    -- behind the word is just the character
    have hrest := (Stream.passes_itemAt hitem).rest
    rw [Stream.ofString, hsource, Nat.zero_add, ← Stream.extent_append, Stream.rest_append] at hrest
    refine hends c ?_
    rw [hrest]
    rfl

/-- The spellings of the tokens of a text, with a space between any two, hold the same tokens. -/
theorem tokenize_joined {l : Lexer Token} (hl : l.Reads vocabulary) (h : vocabulary.Tiles [] 0 source.toList tokens) :
    l.tokenize (" ".intercalate (tokens.map fun token => token.1.spelling)) = some (.ok (tokens.map (·.1))) := by
  have hvalid : ∀ t ∈ tokens.map (·.1), vocabulary.Valid t := by
    intro t ht
    obtain ⟨⟨t, start, stop⟩, hmem, rfl⟩ := List.mem_map.1 ht
    exact (h.split hmem).1
  have hspace : vocabulary.isBlank ' ' = true := by decide
  obtain ⟨again, hsame, hagain⟩ := Vocabulary.exists_joined hspace _ hvalid 0
  have hjoined : (" ".intercalate (tokens.map fun token => token.1.spelling)).toList
      = [' '].intercalate ((tokens.map (·.1)).map vocabulary.chars) := by
    rw [String.toList_intercalate, List.map_map, List.map_map]
    rfl
  rw [← hjoined] at hagain
  rw [Lexer.tokenize_of_spanned (hl.tokenizeSpanned_of_tiles hagain), ← hsame]
  rfl

theorem badAt_of_stuck {l : Lexer Token} (hl : l.Reads vocabulary) {cs : List Char}
    (hsource : source.toList = cs ++ c :: rest) (h : vocabulary.Tiles (c :: rest) 0 cs tokens)
    (hstuck : vocabulary.Stuck (c :: rest)) :
    BadAt l source ⟨String.singleton c, Stream.extent cs, Stream.extent cs + Item.width c⟩ where
  cut := by
    rw [String.toList_singleton]
    refine Stream.cut?_eq_some_iff.2 ⟨cs, rest, ?_, rfl, ?_⟩
    · rw [List.append_assoc]
      exact hsource
    · rw [Stream.extent_append]
      rfl
  bad := by
    obtain ⟨hblank, hnone⟩ := hstuck
    refine ⟨c, rfl, hblank, fun t ht ⟨more, hchars⟩ => ?_⟩
    -- the character alone would be a token
    obtain ⟨t', ht', hsingle⟩ := exists_token_of_first ht hchars.symm
    refine hnone t' ht' ⟨rest, ?_⟩
    rw [chars_vocabulary, hsingle]
    rfl
  before := by
    refine ⟨cs, tokens, Stream.cut?_eq_some_iff.2 ⟨[], c :: rest, hsource, rfl, rfl⟩, hl.tokenizeSpanned_of_tiles ?_⟩
    rw [String.toList_ofList]
    exact h.alone

/-- **Lexing tiles a text and stops at the first bad place.** A lexer that takes the longest word or mark comes back with
tokens that tile the text, and reads them again from their spellings with a space between any two, or it comes back with
an error over the first character that is neither blank nor the start of a token. Without spans it comes back with the
same. -/
theorem lexing_tiles (l : Lexer Token) (hl : l.Reads vocabulary) (source : String) :
    (∃ result, l.tokenizeSpanned source = some result ∧
      l.tokenize source = some (result.map (List.map (·.1)))) ∧
    (∀ tokens, l.tokenizeSpanned source = some (.ok tokens) →
      Tiled source tokens ∧ l.tokenize source = some (.ok (tokens.map (·.1))) ∧
      l.tokenize (" ".intercalate (tokens.map fun token => token.1.spelling)) = some (.ok (tokens.map (·.1)))) ∧
    ∀ e, l.tokenizeSpanned source = some (.error e) → BadAt l source e := by
  refine ⟨?_, ?_, ?_⟩
  · rcases hl.tokenizeSpanned_cases source with ⟨tokens, hok, -⟩ | ⟨_, _, _, _, -, -, -, herror⟩
    · exact ⟨_, hok, Lexer.tokenize_of_spanned hok⟩
    · exact ⟨_, herror, Lexer.tokenize_of_spanned herror⟩
  · intro tokens hok
    have htiles := hl.tiles_of_tokenizeSpanned hok
    exact ⟨tiled_of_tiles htiles, Lexer.tokenize_of_spanned hok, tokenize_joined hl htiles⟩
  · intro e herror
    obtain ⟨cs, c, rest, tokens, hsource, htiles, hstuck, rfl⟩ := hl.stuck_of_tokenizeSpanned herror
    exact badAt_of_stuck hl hsource htiles hstuck

/-- Two words and a mark tile a text, and an accent, which no word has, is a bad place of two bytes. -/
theorem lexing_tiles_accents :
    Tiled "so, it" [(.word "so", 0, 2), (.comma, 2, 3), (.word "it", 4, 6)] ∧
    lexer.tokenize "so , it" = some (.ok [.word "so", .comma, .word "it"]) ∧
    lexer.tokenize "so é" = some (.error ⟨"é", 3, 5⟩) ∧
    BadAt lexer "so é" ⟨"é", 3, 5⟩ := by
  have hok : lexer.tokenizeSpanned "so, it" = some (.ok [(.word "so", 0, 2), (.comma, 2, 3), (.word "it", 4, 6)]) := by
    decide +kernel
  have herror : lexer.tokenizeSpanned "so é" = some (.error ⟨"é", 3, 5⟩) := by decide +kernel
  obtain ⟨-, htokens, -⟩ := lexing_tiles lexer lexer_reads "so, it"
  obtain ⟨⟨result, hresult, hsame⟩, -, hbad⟩ := lexing_tiles lexer lexer_reads "so é"
  obtain ⟨htiled, -, hagain⟩ := htokens _ hok
  obtain rfl := Option.some.inj (herror.symm.trans hresult)
  exact ⟨htiled, hagain, hsame, hbad _ herror⟩

end Descent.Words
