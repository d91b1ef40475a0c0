import Descent.Grammar.Text
import Descent.Proofs.Split
import Descent.Proofs.Verbatim

/-!
# Transcripts of texts

`g.Transcribes slots`: a grammar of text is put together from literals, white space, characters and whole matches of
patterns, by joining what is read in a row, in alternatives and in repetitions; it may refer to the declarations in
`slots`. `literalWith` returns the spelling that it finds, so it is among these, whatever the transformation makes of it.
The matches of a pattern may be found by any matcher that reports the whole match as its first group, as the matchers of
compiled patterns do (`Grammar.Transcribes.pattern`).

Such a grammar is verbatim (`Grammar.Transcribes.verbatim`). So a success is the slice of the text that the run passed
over, the value of a whole text is the text, and the start of a text and what is left of it are put together to the text
(`text_parsers_verbatim`).
-/

namespace Descent

variable {Γ : Nat → Type} {α β : Type}

/-! ## Matches -/

/-- A compiled pattern reports the whole match from the offset that it was asked for. -/
theorem Pattern.Program.find_whole {ι : Type} [Item ι] [Pattern.Haystack ι] {p : Pattern.Program} {s : Stream ι}
    {pos : Nat} {r : Match} (h : p.find s pos = some r) : r.groups[0]? = some (some (pos, r.stop)) := by
  have hgroups {limit : Nat} (h : p.findGroups s limit pos = some r) : r.groups[0]? = some (some (pos, r.stop)) := by
    rw [findGroups] at h
    split at h
    · cases h
      simp
    · cases h
  rw [find] at h
  split at h
  · split at h
    · cases h
    · split at h
      · cases h
        rfl
      · exact hgroups h
    · exact hgroups h
  · cases h

theorem Pattern.Expr.reportsWhole {ι : Type} [Item ι] [Pattern.Haystack ι] (e : Pattern.Expr) (source : String) :
    (e.matcher source : Matcher ι).ReportsWhole :=
  fun _ _ _ hfind => Pattern.Program.find_whole hfind

namespace Grammar.Verbatim

section Lists

variable {ι : Type} [Item ι] {spelling : (slot : Nat) → (Γ slot → List ι) → Prop} {spell : α → List ι}

theorem alt {gs : List (Grammar ι Γ α)} (hgs : ∀ g ∈ gs, g.Verbatim spelling spell) :
    (Grammar.alt gs).Verbatim spelling spell :=
  .choice fun i => hgs _ (List.get_mem gs i)

theorem or {g h : Grammar ι Γ α} (hg : g.Verbatim spelling spell) (hh : h.Verbatim spelling spell) :
    (Grammar.or g h).Verbatim spelling spell := by
  refine alt fun g' hg' => ?_
  rcases List.mem_cons.1 hg' with rfl | hg'
  · exact hg
  · obtain rfl := List.mem_singleton.1 hg'
    exact hh

theorem seq {gs : List (Grammar ι Γ α)} (hgs : ∀ g ∈ gs, g.Verbatim spelling spell) :
    (Grammar.seq gs).Verbatim spelling (spellAll spell) :=
  .row fun i => hgs _ (List.get_mem gs i)

end Lists

section Text

variable {spelling : (slot : Nat) → (Γ slot → List Char) → Prop} {g h : Grammar Char Γ String}

theorem literal (text : String) : (Grammar.literal text).Verbatim spelling String.toList :=
  .map (fun _ => String.toList_ofList) (.leaf fun _ => rfl)

theorem literalWith (text : String) (transform : String → String) :
    (Grammar.literalWith text transform).Verbatim spelling String.toList :=
  .map (fun _ => String.toList_ofList) (.leaf fun _ => rfl)

theorem whitespace : Grammar.whitespace.Verbatim spelling String.toList :=
  .map (fun _ => String.toList_ofList) (.leaf fun _ => rfl)

theorem satisfies (accepts : Char → Bool) (d : String) :
    (Grammar.satisfies accepts d).Verbatim spelling fun c => [c] :=
  .leaf fun _ => rfl

theorem character {g : Grammar Char Γ Char} (hg : g.Verbatim spelling fun c => [c]) :
    (Grammar.map Char.toString g).Verbatim spelling String.toList :=
  .map (fun c => by simp [Char.toString]) hg

theorem matchedFirst {m : Matcher Char} {groups : List Nat} (hwhole : m.ReportsWhole) (hgroups : groups.head? = some 0) :
    (Grammar.matchedFirst m groups).Verbatim spelling String.toList := by
  have hleaf : (Leaf.pattern m groups).Copies fun vs : List (List Char) => vs.headD [] :=
    ⟨hwhole, hgroups, fun _ => rfl⟩
  have hstrings : ∀ vs : List (List Char), ((vs.map String.ofList).headD "").toList = vs.headD [] := by
    intro vs
    cases vs <;> simp
  exact .map (fun _ => rfl) (.map hstrings (.leaf hleaf))

theorem stringFrom (texts : List String) : (Grammar.stringFrom texts).Verbatim spelling String.toList := by
  refine alt fun g hg => ?_
  obtain ⟨v, -, rfl⟩ := List.mem_map.1 hg
  exact literal v.1

theorem stringFromWith (texts : List String) (transform : String → String) :
    (Grammar.stringFromWith texts transform).Verbatim spelling String.toList := by
  refine alt fun g hg => ?_
  obtain ⟨v, -, rfl⟩ := List.mem_map.1 hg
  exact literalWith v.1 transform

theorem append (hg : g.Verbatim spelling String.toList) (hh : h.Verbatim spelling String.toList) :
    (Grammar.append g h).Verbatim spelling String.toList :=
  .thenCombine (fun _ _ => String.toList_append) hg hh

theorem optionalOr (hg : g.Verbatim spelling String.toList) :
    (Grammar.optionalOr g "").Verbatim spelling String.toList :=
  hg.or (.leaf rfl)

theorem concat {g : Grammar Char Γ (List String)} (hg : g.Verbatim spelling (spellAll String.toList)) :
    (Grammar.concat g).Verbatim spelling String.toList :=
  .map (fun _ => String.toList_join) hg

end Text

end Grammar.Verbatim

/-! ## The grammars that transcribe -/

inductive Grammar.ReadsChar : Grammar Char Γ Char → Prop
  | satisfies (accepts : Char → Bool) (d : String) : ReadsChar (.satisfies accepts d)
  | alt {gs : List (Grammar Char Γ Char)} (hgs : ∀ g ∈ gs, ReadsChar g) : ReadsChar (.alt gs)
  | desc {g : Grammar Char Γ Char} (d : String) (hg : ReadsChar g) : ReadsChar (.desc d g)

/-- Whether a grammar of text returns what it reads, provided that the declarations in `slots` do. -/
inductive Grammar.Transcribes (slots : Nat → Prop) : Grammar Char Γ String → Prop
  | literal (text : String) : Transcribes slots (.literal text)
  | literalWith (text : String) (transform : String → String) : Transcribes slots (.literalWith text transform)
  /-- The whole match of a pattern, whatever finds it. -/
  | matched {m : Matcher Char} {groups : List Nat} (hwhole : m.ReportsWhole) (hgroups : groups.head? = some 0) :
      Transcribes slots (.matchedFirst m groups)
  | whitespace : Transcribes slots .whitespace
  | stringFrom (texts : List String) : Transcribes slots (.stringFrom texts)
  | stringFromWith (texts : List String) (transform : String → String) :
      Transcribes slots (.stringFromWith texts transform)
  | character {g : Grammar Char Γ Char} (hg : g.ReadsChar) : Transcribes slots (.map Char.toString g)
  | ref {slot : Nat} (hslot : slots slot) (hstring : Γ slot = String) : Transcribes slots (hstring ▸ .ref slot)
  | append {g h : Grammar Char Γ String} (hg : Transcribes slots g) (hh : Transcribes slots h) :
      Transcribes slots (.append g h)
  | or {g h : Grammar Char Γ String} (hg : Transcribes slots g) (hh : Transcribes slots h) : Transcribes slots (.or g h)
  | alt {gs : List (Grammar Char Γ String)} (hgs : ∀ g ∈ gs, Transcribes slots g) : Transcribes slots (.alt gs)
  | desc {g : Grammar Char Γ String} (d : String) (hg : Transcribes slots g) : Transcribes slots (.desc d g)
  | optionalOr {g : Grammar Char Γ String} (hg : Transcribes slots g) : Transcribes slots (.optionalOr g "")
  | seq {gs : List (Grammar Char Γ String)} (hgs : ∀ g ∈ gs, Transcribes slots g) :
      Transcribes slots (.concat (.seq gs))
  | times (b : Bounds) {g : Grammar Char Γ String} (hg : Transcribes slots g) : Transcribes slots (.concat (.times b g))
  /-- The terminator stays unread, so it may be of any kind. -/
  | manyUntil {β : Type} (b : Bounds) {g : Grammar Char Γ String} (hg : Transcribes slots g) (stop : Grammar Char Γ β) :
      Transcribes slots (.concat (.manyUntilBounded b g stop))
  | manyUntilConsume (b : Bounds) {g stop : Grammar Char Γ String} (hg : Transcribes slots g)
      (hstop : Transcribes slots stop) : Transcribes slots (.concat (.manyUntilConsume b g stop))

/-- A pattern that compiles is among these grammars. -/
theorem Grammar.Transcribes.pattern {slots : Nat → Prop} {source : String} {g : Grammar Char Γ String}
    (hsource : Grammar.pattern source = .ok g) : g.Transcribes slots := by
  unfold Grammar.pattern patternGroup patternGroups at hsource
  cases hexpr : Pattern.Expr.ofString true source with
  | error e => simp [hexpr, Except.map] at hsource
  | ok expr =>
    have hindices : expr.groups source [.index 0] = .ok [0] ∨ ∃ e, expr.groups source [.index 0] = .error e := by
      by_cases hcount : 0 < expr.groupCount
      · left
        simp [Pattern.Expr.groups, Pattern.Expr.group, hcount]
      · right
        refine ⟨.unknownGroup source (Pattern.Group.index 0).text, ?_⟩
        simp [Pattern.Expr.groups, Pattern.Expr.group, hcount]
    rcases hindices with hindices | ⟨e, hindices⟩
    · simp only [hexpr, hindices, Except.map, Except.ok.injEq] at hsource
      rw [← hsource]
      exact .matched (expr.reportsWhole source) rfl
    · simp [hexpr, hindices, Except.map] at hsource

/-- Whether the declarations in `slots` are of strings, and have been resolved to grammars that return what they read. -/
def Declarations.Transcribes (d : Declarations Char Γ) (slots : Nat → Prop) : Prop :=
  ∀ slot (hstring : Γ slot = String) (g : Grammar Char Γ (Γ slot)), slots slot → d.body? slot = some g →
    Grammar.Transcribes slots (hstring ▸ g)

/-- The declarations in `slots`, with values that are spelled as strings. -/
def stringsIn (slots : Nat → Prop) (slot : Nat) (spell : Γ slot → List Char) : Prop :=
  slots slot ∧ ∃ hstring : Γ slot = String, spell = fun v => (cast hstring v).toList

theorem Grammar.verbatim_cast {spelling : (slot : Nat) → (Γ slot → List Char) → Prop} (hstring : α = String)
    {g : Grammar Char Γ α} : g.Verbatim spelling (fun v => (cast hstring v).toList) ↔
      (hstring ▸ g : Grammar Char Γ String).Verbatim spelling String.toList := by
  subst hstring
  rfl

theorem Grammar.ReadsChar.verbatim {spelling : (slot : Nat) → (Γ slot → List Char) → Prop} {g : Grammar Char Γ Char}
    (hg : g.ReadsChar) : g.Verbatim spelling fun c => [c] := by
  induction hg with
  | satisfies accepts d => exact .satisfies accepts d
  | alt _ ih => exact .alt ih
  | desc d _ ih => exact .desc d ih

theorem Grammar.Transcribes.verbatim {slots : Nat → Prop} {g : Grammar Char Γ String} (hg : g.Transcribes slots) :
    g.Verbatim (stringsIn slots) String.toList := by
  induction hg with
  | literal text => exact .literal text
  | literalWith text transform => exact .literalWith text transform
  | matched hwhole hgroups => exact .matchedFirst hwhole hgroups
  | whitespace => exact .whitespace
  | stringFrom texts => exact .stringFrom texts
  | stringFromWith texts transform => exact .stringFromWith texts transform
  | character hg => exact .character hg.verbatim
  | ref hslot hstring => exact (verbatim_cast hstring).1 (.ref ⟨hslot, hstring, rfl⟩)
  | append _ _ ihg ihh => exact .append ihg ihh
  | or _ _ ihg ihh => exact .or ihg ihh
  | alt _ ih => exact .alt ih
  | desc d _ ih => exact .desc d ih
  | optionalOr _ ih => exact .optionalOr ih
  | seq _ ih => exact .concat (.seq ih)
  | times b _ ih => exact .concat (.times b ih)
  | manyUntil b _ stop ih => exact .concat (.manyUntil b ih stop)
  | manyUntilConsume b _ _ ihg ihs => exact .concat (.manyUntilConsume b ihg ihs)

theorem Declarations.Transcribes.verbatim {d : Declarations Char Γ} {slots : Nat → Prop} (hd : d.Transcribes slots) :
    d.Verbatim (stringsIn slots) := by
  rintro slot spell g ⟨hslot, hstring, rfl⟩ hbody
  exact (Grammar.verbatim_cast hstring).2 (hd slot hstring g hslot hbody).verbatim

/-! ## Parses -/

theorem Stream.rest_of_length_le {ι : Type} [Item ι] {s : Stream ι} {pos : Nat} (h : s.length ≤ pos) :
    s.rest pos = [] := by
  rw [rest]
  split_ifs
  · rw [between, Array.extract_empty_of_stop_le_start h]
    rfl
  · rfl

section Parses

variable {d : Declarations Char Γ} {slots : Nat → Prop} {g : Grammar Char Γ String}

theorem append_of_parsePartial (hd : d.Transcribes slots) (hg : g.Transcribes slots) {budget : Nat} {text v : String}
    {rest : Stream Char} (hparse : d.parsePartial budget g (.ofString text) = some (.ok (v, rest))) :
    v ++ String.ofList rest.items = text := by
  obtain ⟨next, w, hrun, rfl⟩ := Declarations.success_of_parsePartial hparse
  have hpasses := verbatim_of_runAt hd.verbatim hg.verbatim (Stream.isBoundary_zero _) hrun
  have hitems : text.toList = v.toList ++ (Stream.ofString text).rest next := by
    rw [← hpasses.rest, Stream.rest_zero, Stream.ofString, Stream.items_ofList]
  rw [← String.toList_inj, String.toList_append, String.toList_ofList, hitems]
  rfl

theorem eq_of_parse (hd : d.Transcribes slots) (hg : g.Transcribes slots) {budget : Nat} {text v : String}
    (hparse : d.parse budget g (.ofString text) = some (.ok v)) : v = text := by
  rw [Declarations.parse_eq] at hparse
  obtain ⟨outcome, hpartial, houtcome⟩ := Option.map_eq_some_iff.1 hparse
  obtain ⟨rest, rfl⟩ : ∃ rest, outcome = .ok (v, rest) := by
    cases outcome with
    | error e => cases houtcome
    | ok pair => exact ⟨pair.2, by rw [← Except.ok.inj houtcome]⟩
  obtain ⟨next, w, hrun, -⟩ := Declarations.success_of_parsePartial hpartial
  have hends : Gives (d.parser budget (g.skip .eof)) (.ofString text) 0 fun v next =>
      (Stream.ofString text).Passes 0 v.toList next ∧ (Stream.ofString text).length ≤ next := by
    refine Gives.thenCombine _ ((copies_verbatim hd.verbatim hg.verbatim budget 0 (Stream.isBoundary_zero _)).mono
      fun v next hpasses step hstep => ?_)
    rw [Grammar.eof, Grammar.parser_leaf] at hstep
    obtain rfl := Option.some.inj hstep
    rw [Leaf.step]
    split_ifs with hend
    · exact ⟨hpasses, hend⟩
    · trivial
  rw [Declarations.runAt, Parser.run_plain] at hrun
  obtain ⟨hpasses, hend⟩ := hends _ hrun
  have hitems := hpasses.rest
  rw [Stream.rest_zero, Stream.rest_of_length_le hend, List.append_nil] at hitems
  exact String.toList_inj.1 hitems.symm

/-- **Text parsers lose and invent nothing.** A grammar that transcribes succeeds from a boundary with just the slice of
the text up to where it ends; with the whole text, if it parses that; and with its start, if it parses that. -/
theorem text_parsers_verbatim (hd : d.Transcribes slots) (hg : g.Transcribes slots) (budget : Nat) (text : String) :
    (∀ pos v next w, (Stream.ofString text).isBoundary pos = true →
      d.runAt budget g (.ofString text) pos = some (.success v next w) →
        ∃ before after : String, text = before ++ v ++ after ∧ before.utf8ByteSize = pos ∧
          (before ++ v).utf8ByteSize = next) ∧
    (∀ v, d.parse budget g (.ofString text) = some (.ok v) → v = text) ∧
    ∀ v rest, d.parsePartial budget g (.ofString text) = some (.ok (v, rest)) →
      v ++ String.ofList rest.items = text := by
  refine ⟨fun pos v next w hpos hrun => ?_, fun v hparse => eq_of_parse hd hg hparse,
    fun v rest hparse => append_of_parsePartial hd hg hparse⟩
  have hpasses := verbatim_of_runAt hd.verbatim hg.verbatim hpos hrun
  obtain ⟨before, after, htext, hbefore, hnext⟩ := Stream.passes_text hpos hpasses
  rw [String.ofList_toList] at htext hnext
  exact ⟨before, after, htext, hbefore, hnext⟩

end Parses

/-! ## Quotations -/

/-- The pattern `[0-9]+`. -/
def Matcher.numeral : Matcher Char :=
  (Pattern.Expr.repetition 1 none true (.chars (.range '0'.toNat '9'.toNat))).matcher "[0-9]+"

/-- A quotation that may hold quotations, and, each as a whole, numerals and the word "and" in letters of any case. -/
def Grammar.quotation : Grammar Char (fun _ => String) String :=
  .append (.literal "«") (.concat (.manyUntilConsume .any
    (.alt [.ref 0, .matchedFirst .numeral [0], .literalWith "and" fun s => .ofList (s.toList.map Char.toLower),
      .map Char.toString .anyChar])
    (.literal "»")))

def Declarations.quotation : Declarations Char (fun _ => String) := ⟨1, fun _ => some Grammar.quotation⟩

theorem Grammar.quotation_transcribes : quotation.Transcribes fun _ => True := by
  refine .append (.literal _) (.manyUntilConsume _ (.alt fun g hg => ?_) (.literal _))
  simp only [List.mem_cons, List.not_mem_nil, or_false] at hg
  rcases hg with rfl | rfl | rfl | rfl
  · exact .ref trivial rfl
  · exact .matched (Pattern.Expr.reportsWhole _ _) rfl
  · exact .literalWith _ _
  · exact .character (.satisfies _ _)

theorem text_parsers_verbatim_quotation :
    Declarations.quotation.Transcribes (fun _ => True) ∧ Grammar.quotation.Transcribes (fun _ => True) ∧
    (Stream.ofString "«And«12é»»").isBoundary 5 = true ∧
    Declarations.quotation.runAt 3 Grammar.quotation (.ofString "«And«12é»»") 5
      = some (.success "«12é»" 13 (some ⟨9, ((Keyed.single "[0-9]+").insert "and").insert "«"⟩)) ∧
    Declarations.quotation.parse 4 Grammar.quotation (.ofString "«And«12é»»") = some (.ok "«And«12é»»") ∧
    (∃ before after : String, "«And«12é»»" = before ++ "«12é»" ++ after ∧ before.utf8ByteSize = 5 ∧
      (before ++ "«12é»").utf8ByteSize = 13) ∧
    ∀ v rest, Declarations.quotation.parsePartial 4 Grammar.quotation (.ofString "«And«12é»»") = some (.ok (v, rest)) →
      v ++ String.ofList rest.items = "«And«12é»»" := by
  have hd : Declarations.quotation.Transcribes fun _ => True := by
    intro slot hstring g _ hbody
    obtain rfl := Option.some.inj hbody
    exact Grammar.quotation_transcribes
  have hpos : (Stream.ofString "«And«12é»»").isBoundary 5 = true := by decide +kernel
  have hrun : Declarations.quotation.runAt 3 Grammar.quotation (.ofString "«And«12é»»") 5
      = some (.success "«12é»" 13 (some ⟨9, ((Keyed.single "[0-9]+").insert "and").insert "«"⟩)) := by decide +kernel
  have hparse : Declarations.quotation.parse 4 Grammar.quotation (.ofString "«And«12é»»")
      = some (.ok "«And«12é»»") := by decide +kernel
  have hslices := (text_parsers_verbatim hd Grammar.quotation_transcribes 3 "«And«12é»»").1
  have hstarts := (text_parsers_verbatim hd Grammar.quotation_transcribes 4 "«And«12é»»").2.2
  exact ⟨hd, Grammar.quotation_transcribes, hpos, hrun, hparse, hslices 5 _ _ _ hpos hrun, hstarts⟩

end Descent
