import Descent.Proofs.Consumption
import Descent.Proofs.Prefixes
import Descent.Proofs.Spellings
import Descent.Proofs.WholeStreams
import Mathlib.Data.List.Nodup
import Mathlib.Data.List.TakeWhile

/-!
# The longest first

Texts that a rest starts with are starts of one another (`isPrefix_of_size_le`), so that the one with most bytes is the
longest, and the same in whichever order they are listed. That is what a choice among literals comes to
(`longest_spelling_chosen`). The order shows in the witness of a value only (`listed_order_in_witness`).

Up to a transformation, what a spelling takes has as many characters as the spelling, whatever their bytes. The one with
most bytes still is the one that is chosen, but others may take more (`transformed_choice_most_bytes`).
-/

namespace Descent

variable {Γ : Nat → Type} {α β : Type}

/-! ## Texts that a rest starts with -/

/-- A listed text that the rest starts with, and that starts with every other such text. -/
structure LongestPrefix (rest : List Char) (texts : List String) (t : String) : Prop where
  mem : t ∈ texts
  starts : t.toList <+: rest
  longest : ∀ u ∈ texts, u.toList <+: rest → u.toList <+: t.toList

theorem LongestPrefix.unique {rest : List Char} {texts texts' : List String} (h : ∀ t, t ∈ texts ↔ t ∈ texts')
    {t u : String} (ht : LongestPrefix rest texts t) (hu : LongestPrefix rest texts' u) : t = u := by
  have hle := ht.longest u ((h u).2 hu.mem) hu.starts
  have hge := hu.longest t ((h t).1 ht.mem) ht.starts
  exact eq_of_prefixes hge hle

theorem isPrefix_of_size_le {rest : List Char} {t u : String} (ht : t.toList <+: rest) (hu : u.toList <+: rest)
    (h : u.utf8ByteSize ≤ t.utf8ByteSize) : u.toList <+: t.toList := by
  rcases List.prefix_or_prefix_of_prefix hu ht with hpre | ⟨more, hmore⟩
  · exact hpre
  · have hsize : Stream.extent u.toList = Stream.extent t.toList + Stream.extent more := by
      rw [← hmore, Stream.extent_append]
    rw [Stream.extent_toList, Stream.extent_toList] at hsize
    rcases eq_or_ne more [] with rfl | hne
    · rw [List.append_nil] at hmore
      exact hmore ▸ List.prefix_rfl
    · have hpos := Stream.extent_pos hne
      omega

theorem size_le_iff_length_le {rest : List Char} {t u : String} (ht : t.toList <+: rest) (hu : u.toList <+: rest) :
    u.utf8ByteSize ≤ t.utf8ByteSize ↔ u.length ≤ t.length := by
  constructor
  · intro h
    exact (isPrefix_of_size_le ht hu h).length_le
  · intro h
    obtain ⟨more, hmore⟩ := List.prefix_of_prefix_length_le hu ht h
    rw [← Stream.extent_toList t, ← hmore, Stream.extent_append, Stream.extent_toList]
    exact Nat.le_add_right _ _

theorem Chosen.longestPrefix {rest : List Char} {variants : List (String × α)} {x : String × α}
    (h : Chosen (fun t => t.toList <+: rest) variants x) : LongestPrefix rest (variants.map Prod.fst) x.1 := by
  refine ⟨List.mem_map_of_mem h.mem, h.read, fun u hu hstarts => ?_⟩
  obtain ⟨y, hy, rfl⟩ := List.mem_map.1 hu
  exact isPrefix_of_size_le h.read hstarts (h.longest y hy hstarts)

theorem Chosen.find_eq {rest : List Char} {variants : List (String × α)} {x : String × α}
    (h : Chosen (fun t => t.toList <+: rest) variants x) : variants.find? (·.1 = x.1) = some x := by
  have hsame : (fun y : String × α => decide (y.1.toList <+: rest ∧ y.1.utf8ByteSize = x.1.utf8ByteSize))
      = fun y => decide (y.1 = x.1) := by
    funext y
    refine decide_eq_decide.2 ⟨fun ⟨hread, hsize⟩ => ?_, fun heq => ⟨heq ▸ h.read, congrArg _ heq⟩⟩
    have hle := isPrefix_of_size_le h.read hread (Nat.le_of_eq hsize)
    have hge := isPrefix_of_size_le hread h.read (Nat.le_of_eq hsize.symm)
    exact eq_of_prefixes hle hge
  rw [← hsame]
  exact h.first

/-! ## Another order -/

namespace Step

def unwitnessed : Step α → Step α
  | success v next _ => success v next none
  | fail pos w => fail pos w
  | error e => error e

/-- The same outcome, but for the witness of a value; what is reported where the value leaves something unread is the
same. -/
inductive Alike : Step α → Step α → Prop
  | success (v : α) (next : Nat) {w w' : Option Furthest} (h : unread next w = unread next w') :
      Alike (success v next w) (success v next w')
  | fail (pos : Nat) (w : Furthest) : Alike (fail pos w) (fail pos w)

theorem Alike.unwitnessed_eq {step step' : Step α} (h : step.Alike step') : step.unwitnessed = step'.unwitnessed := by
  cases h <;> rfl

theorem Alike.report_eq {s : Stream Char} {step step' : Step α} (h : step.Alike step') :
    step.report s = step'.report s := by
  cases h <;> rfl

theorem Alike.report_toEnd_eq {s : Stream Char} {step step' : Step α} (h : step.Alike step') :
    (step.toEnd s).report s = (step'.toEnd s).report s := by
  cases h with
  | success v next h =>
    rw [toEnd, toEnd, h]
    split_ifs <;> rfl
  | fail pos w => rfl

end Step

/-- Two grammars come to the same: from every boundary to the same value, which ends at the same offset, or to the same
failure. So do parses of the stream with either of them, and of its start. -/
structure ComeToSame (d : Declarations Char Γ) (budget : Nat) (s : Stream Char) (g h : Grammar Char Γ β) : Prop where
  runs : ∀ pos, s.isBoundary pos = true →
    (d.runAt budget g s pos : Option (Step β)).map Step.unwitnessed
      = (d.runAt budget h s pos : Option (Step β)).map Step.unwitnessed
  starts : (d.parsePartial budget g s : Option (Except Error (β × Stream Char))) = d.parsePartial budget h s
  wholes : (d.parse budget g s : Option (Except Error β)) = d.parse budget h s

theorem ComeToSame.of_alike {d : Declarations Char Γ} {budget : Nat} {s : Stream Char} {g h : Grammar Char Γ β}
    (halike : ∀ pos, s.isBoundary pos = true → ∃ step step',
      d.runAt budget g s pos = some step ∧ d.runAt budget h s pos = some step' ∧ step.Alike step') :
    ComeToSame d budget s g h := by
  refine ⟨fun pos hpos => ?_, ?_, ?_⟩
  · obtain ⟨step, step', hg, hh, halike⟩ := halike pos hpos
    rw [hg, hh]
    exact congrArg some halike.unwitnessed_eq
  all_goals obtain ⟨step, step', hg, hh, halike⟩ := halike 0 s.isBoundary_zero
  · rw [Declarations.parsePartial_eq, Declarations.parsePartial_eq, hg, hh]
    exact congrArg some halike.report_eq
  · rw [Declarations.parse_eq_toEnd, Declarations.parse_eq_toEnd, hg, hh]
    exact congrArg (fun outcome => some (outcome.map Prod.fst)) halike.report_toEnd_eq

theorem unread_of_lt {next : Nat} {w : Option Furthest} (h : ∀ f ∈ w, f.pos < next) :
    unread next w = ⟨next, .single "EOF"⟩ := by
  cases w with
  | none => rfl
  | some f => exact if_pos (h f rfl)

section Prefixes

variable {d : Declarations Char Γ} {budget : Nat} {s : Stream Char} {pos : Nat} {branch : String × α → Grammar Char Γ β}
  {value : String × α → β}

theorem mem_triedBefore_empty {texts : List String} {u : String} :
    u ∈ triedBefore texts "" ↔ u ∈ texts ∧ u ≠ "" := by
  have hsize : u.utf8ByteSize = "".utf8ByteSize ↔ u = "" := String.utf8ByteSize_eq_zero_iff
  rw [triedBefore, List.mem_append]
  constructor
  · rintro (hlonger | htied)
    · obtain ⟨hmem, hlonger⟩ := List.mem_filter.1 hlonger
      exact ⟨hmem, fun hu => Nat.ne_of_gt (of_decide_eq_true hlonger) (hsize.2 hu)⟩
    · have hu : u ≠ "" := by simpa using List.mem_takeWhile_imp htied
      have hmem := (List.takeWhile_sublist _).mem htied
      exact absurd (hsize.1 (of_decide_eq_true (List.mem_filter.1 hmem).2)) hu
  · rintro ⟨hmem, hu⟩
    exact .inl (List.mem_filter.2 ⟨hmem, decide_eq_true (Nat.pos_of_ne_zero fun hzero => hu (hsize.1 hzero))⟩)

/-- The spellings that have been missed are not reported where something is unread behind the chosen one, unless that is
empty; then they are all the others, in any order. -/
theorem unread_missed {texts texts' : List String} (hperm : texts.Perm texts') (t : String) (pos : Nat) :
    unread (pos + t.utf8ByteSize) (missed pos (triedBefore texts t))
      = unread (pos + t.utf8ByteSize) (missed pos (triedBefore texts' t)) := by
  rcases eq_or_ne t "" with rfl | ht
  · have hsame (u) : u ∈ triedBefore texts "" ↔ u ∈ triedBefore texts' "" := by
      rw [mem_triedBefore_empty, mem_triedBefore_empty, hperm.mem_iff]
    rw [missed_congr hsame]
  · have hlong : 0 < t.utf8ByteSize := Nat.pos_of_ne_zero fun hzero => ht (String.utf8ByteSize_eq_zero_iff.1 hzero)
    have hlt (names : List String) (f) (hf : f ∈ missed pos names) : f.pos < pos + t.utf8ByteSize := by
      rw [pos_missed hf]
      omega
    rw [unread_of_lt (hlt _), unread_of_lt (hlt _)]

theorem Spells.alike_of_perm {variants variants' : List (String × α)}
    (hspells : Spells d budget s pos branch (fun t => t.toList <+: s.rest pos) value fun t => pos + t.utf8ByteSize)
    (hperm : variants.Perm variants') (hvalue : ∀ x ∈ variants, ∀ y ∈ variants, x.1 = y.1 → value x = value y) :
    ∃ step step', d.runAt budget (.alt ((Grammar.byLength variants).map branch)) s pos = some step ∧
      d.runAt budget (.alt ((Grammar.byLength variants').map branch)) s pos = some step' ∧ step.Alike step' := by
  by_cases h : ∃ x ∈ variants, x.1.toList <+: s.rest pos
  · have h' : ∃ x ∈ variants', x.1.toList <+: s.rest pos := by simpa only [hperm.mem_iff] using h
    obtain ⟨x, hx, hrun⟩ := hspells.succeeds h
    obtain ⟨x', hx', hrun'⟩ := hspells.succeeds h'
    have hsame : x.1 = x'.1 := hx.longestPrefix.unique (fun t => (hperm.map Prod.fst).mem_iff) hx'.longestPrefix
    rw [hvalue x' (hperm.mem_iff.2 hx'.mem) x hx.mem hsame.symm, ← hsame] at hrun'
    exact ⟨_, _, hrun, hrun', .success _ _ (unread_missed (hperm.map Prod.fst) x.1 pos)⟩
  · have hmiss (x) (hx : x ∈ variants) : ¬x.1.toList <+: s.rest pos := fun hread => h ⟨x, hx, hread⟩
    have hrun' := hspells.fails fun x hx => hmiss x (hperm.mem_iff.2 hx)
    rw [Expected.ofList_perm (hperm.map Prod.fst).symm] at hrun'
    exact ⟨_, _, hspells.fails hmiss, hrun', .fail _ _⟩

end Prefixes

section Spellings

variable {d : Declarations Char Γ} {budget : Nat} {s : Stream Char} {pos : Nat}

theorem spells_literal (hpos : s.isBoundary pos = true) :
    Spells d budget s pos (fun x : String × α => .literal x.1) (fun t => t.toList <+: s.rest pos) Prod.fst
      fun t => pos + t.utf8ByteSize :=
  fun x => Declarations.runAt_literal hpos x.1

theorem spells_literalWith (hpos : s.isBoundary pos = true) (transform : String → String) :
    Spells d budget s pos (fun x : String × α => .literalWith x.1 transform)
      (fun t => transform (slice (s.rest pos) t.length) = transform t) (fun x => slice (s.rest pos) x.1.length)
      fun t => pos + (slice (s.rest pos) t.length).utf8ByteSize :=
  fun x => Declarations.runAt_literalWith hpos x.1 transform

theorem map_fst_literals (literals : List String) : (literals.map fun t => (t, ())).map Prod.fst = literals := by
  rw [List.map_map]
  exact List.map_id literals

end Spellings

/-- **The longest spelling is chosen, in whichever order they are listed.** From a boundary on, a choice among literals
has a value exactly if the rest of the text starts with one of them; then the value is the longest of these, and what
comes behind it is next. Otherwise it fails where it is, and expects just the listed literals. A choice among variants
goes the same way, with the value of the first one that is listed with the longest spelling. Listing the literals in
another order, or the variants if their spellings differ, changes no value, no end and no failure, and no result of a
parse. The witness of a value may be another one: it names the spellings with more bytes than the longest one that is
read, and of those with as many the ones that are listed before it. -/
theorem longest_spelling_chosen (d : Declarations Char Γ) (budget : Nat) (s : Stream Char) :
    (∀ (literals : List String) (pos : Nat), s.isBoundary pos = true →
      Chooses pos literals (fun t => t.toList <+: s.rest pos)
        (fun t next => LongestPrefix (s.rest pos) literals t ∧ next = pos + t.utf8ByteSize)
        (d.runAt budget (.stringFrom literals) s pos)) ∧
    (∀ (variants : List (String × α)) (pos : Nat), s.isBoundary pos = true →
      Chooses pos (variants.map Prod.fst) (fun t => t.toList <+: s.rest pos)
        (fun v next => ∃ t, LongestPrefix (s.rest pos) (variants.map Prod.fst) t ∧ next = pos + t.utf8ByteSize ∧
          variants.find? (·.1 = t) = some (t, v))
        (d.runAt budget (.fromVariants variants) s pos)) ∧
    (∀ literals literals' : List String, literals.Perm literals' →
      ComeToSame d budget s (.stringFrom literals) (.stringFrom literals')) ∧
    (∀ variants variants' : List (String × α), variants.Perm variants' → (variants.map Prod.fst).Nodup →
      ComeToSame d budget s (.fromVariants variants) (.fromVariants variants')) ∧
    (∀ (literals : List String) (pos : Nat), s.isBoundary pos = true → ∀ t next w,
      d.runAt budget (.stringFrom literals) s pos = some (.success t next w) → w = missed pos (triedBefore literals t)) ∧
    ∀ (variants : List (String × α)) (pos : Nat), s.isBoundary pos = true → ∀ v next w,
      d.runAt budget (.fromVariants variants) s pos = some (.success v next w) →
        ∃ t, LongestPrefix (s.rest pos) (variants.map Prod.fst) t ∧
          w = missed pos (triedBefore (variants.map Prod.fst) t) := by
  refine ⟨fun literals pos hpos => ?_, fun variants pos hpos => ?_, fun literals literals' hperm => ?_,
    fun variants variants' hperm hdistinct => ?_, fun literals pos hpos t next w hrun => ?_,
    fun variants pos hpos v next w hrun => ?_⟩
  · have hspells : Spells d budget s pos (fun x : String × Unit => .literal x.1) _ _ _ := spells_literal hpos
    have hchooses := hspells.chooses (literals.map fun t => (t, ()))
    rw [map_fst_literals] at hchooses
    refine hchooses.mono (fun _ => Iff.rfl) ?_
    rintro _ _ ⟨x, hx, rfl, rfl⟩
    have hlongest := hx.longestPrefix
    rw [map_fst_literals] at hlongest
    exact ⟨hlongest, rfl⟩
  · refine ((spells_literal hpos).result.chooses variants).mono (fun _ => Iff.rfl) ?_
    rintro _ _ ⟨x, hx, rfl, rfl⟩
    exact ⟨x.1, hx.longestPrefix, rfl, hx.find_eq⟩
  · exact .of_alike fun pos hpos => (spells_literal hpos).alike_of_perm (hperm.map _) fun x _ y _ h => h
  · refine .of_alike fun pos hpos => (spells_literal hpos).result.alike_of_perm hperm fun x hx y hy h => ?_
    rw [List.inj_on_of_nodup_map hdistinct hx hy h]
  · obtain ⟨x, -, rfl, rfl⟩ := (spells_literal hpos).witness hrun
    rw [map_fst_literals]
  · obtain ⟨x, hx, -, rfl⟩ := (spells_literal hpos).result.witness hrun
    exact ⟨x.1, hx.longestPrefix, rfl⟩

def Grammar.wordFrom (words : List String) : Grammar Char (fun _ => String) String := stringFrom words

/-- Of words that begin one another the longest is read, and where no other one is, the empty one, which is tried last.
Listed the other way round they give the same. -/
theorem longest_spelling_chosen_keywords :
    Declarations.none.runAt 0 (.wordFrom ["in", "", "int", "if", "in"]) (.ofString "é:int8") 3
      = some (.success "int" 6 none) ∧
    Declarations.none.runAt 0 (.wordFrom ["in", "", "int", "if", "in"]) (.ofString "é:int8") 2
      = some (.success "" 2 (some ⟨2, .ofList ["in", "int", "if"]⟩)) ∧
    (Declarations.none.parse 0 (.wordFrom ["in", "", "int", "if", "in"]) (.ofString "é:int8") : Option _)
      = Declarations.none.parse 0 (.wordFrom ["in", "if", "int", "", "in"]) (.ofString "é:int8") := by
  obtain ⟨hchoose, -, hreorder, -, hwitness, -⟩ :=
    longest_spelling_chosen (α := Unit) (Γ := fun _ => String) .none 0 (.ofString "é:int8")
  have hat (pos) (t) (hpos : (Stream.ofString "é:int8").isBoundary pos = true)
      (ht : LongestPrefix ((Stream.ofString "é:int8").rest pos) ["in", "", "int", "if", "in"] t) :
      Declarations.none.runAt 0 (.wordFrom ["in", "", "int", "if", "in"]) (.ofString "é:int8") pos
        = some (.success t (pos + t.utf8ByteSize) (missed pos (triedBefore ["in", "", "int", "if", "in"] t))) := by
    have hchooses := hchoose ["in", "", "int", "if", "in"] pos hpos
    obtain ⟨u, next, w, hrun⟩ := hchooses.succeeds.2 ⟨t, ht.mem, ht.starts⟩
    obtain ⟨hu, rfl⟩ := hchooses.chosen u next w hrun
    obtain rfl := hu.unique (fun _ => Iff.rfl) ht
    obtain rfl := hwitness _ pos hpos _ _ _ hrun
    exact hrun
  have hint := hat 3 "int" (by decide +kernel) ⟨by decide, by decide +kernel, by decide +kernel⟩
  have hempty := hat 2 "" (by decide +kernel) ⟨by decide, by decide +kernel, by decide +kernel⟩
  exact ⟨hint, hempty, (hreorder _ _ (List.reverse_perm ["in", "if", "int", "", "in"])).wholes⟩

/-- Of two words with as many bytes the one that is listed first is tried first. Where it is missed, the outcome names
it, and does not if they are listed the other way round. -/
theorem listed_order_in_witness :
    ["in", "if"].Perm ["if", "in"] ∧
    Declarations.none.runAt 0 (.wordFrom ["in", "if"]) (.ofString "if") 0
      = some (.success "if" 2 (some ⟨0, .single "in"⟩)) ∧
    Declarations.none.runAt 0 (.wordFrom ["if", "in"]) (.ofString "if") 0 = some (.success "if" 2 none) ∧
    (Declarations.none.runAt 0 (.wordFrom ["in", "if"]) (.ofString "if") 0 : Option (Step String))
      ≠ Declarations.none.runAt 0 (.wordFrom ["if", "in"]) (.ofString "if") 0 := by
  have hsorted (t u : String) (hsize : u.utf8ByteSize ≤ t.utf8ByteSize) :
      Grammar.byLength ([t, u].map fun t => (t, ())) = [(t, ()), (u, ())] :=
    List.mergeSort_of_pairwise (by simpa using hsize)
  have hlisted : Declarations.none.runAt 0 (.wordFrom ["in", "if"]) (.ofString "if") 0
      = some (.success "if" 2 (some ⟨0, .single "in"⟩)) := by
    rw [Grammar.wordFrom, Grammar.stringFrom, hsorted "in" "if" (by decide)]
    decide
  have hreordered : Declarations.none.runAt 0 (.wordFrom ["if", "in"]) (.ofString "if") 0
      = some (.success "if" 2 none) := by
    rw [Grammar.wordFrom, Grammar.stringFrom, hsorted "if" "in" (by decide)]
    decide
  refine ⟨.swap "if" "in" [], hlisted, hreordered, ?_⟩
  rw [hlisted, hreordered]
  decide

/-! ## Up to a transformation -/

/-- From `pos` on, a literal up to a transformation takes `v`, which ends at `next`. -/
def Takes (d : Declarations Char Γ) (budget : Nat) (transform : String → String) (s : Stream Char) (pos : Nat)
    (text v : String) (next : Nat) : Prop :=
  ∃ w, d.runAt budget (.literalWith text transform) s pos = some (.success v next w)

/-- Among the spellings that take something where `rest` is left, one with most bytes takes `v`, which ends at `next`.
What another one takes ends no later exactly if that has no more characters, or if `v` comes to the end. -/
structure MostBytes (takes : String → String → Nat → Prop) (rest : List Char) (texts : List String) (t v : String)
    (next : Nat) : Prop where
  mem : t ∈ texts
  taken : takes t v next
  most : ∀ u ∈ texts, ∀ v' next', takes u v' next' →
    u.utf8ByteSize ≤ t.utf8ByteSize ∧ (next' ≤ next ↔ u.length ≤ t.length ∨ rest.length ≤ t.length)

theorem MostBytes.longest {takes : String → String → Nat → Prop} {rest : List Char} {texts : List String} {t v : String}
    {next : Nat} (h : MostBytes takes rest texts t v next)
    (hagree : ∀ t ∈ texts, ∀ u ∈ texts, u.utf8ByteSize ≤ t.utf8ByteSize → u.length ≤ t.length) {u v' : String}
    {next' : Nat} (hu : u ∈ texts) (htakes : takes u v' next') : next' ≤ next := by
  obtain ⟨hsize, hlength⟩ := h.most u hu v' next' htakes
  exact hlength.2 (.inl (hagree t h.mem u hu hsize))

theorem size_slice_le_iff (rest : List Char) (m n : Nat) :
    (slice rest m).utf8ByteSize ≤ (slice rest n).utf8ByteSize ↔ m ≤ n ∨ rest.length ≤ n := by
  have hstarts (count : Nat) : (slice rest count).toList <+: rest := by
    rw [slice, String.toList_ofList]
    exact List.take_prefix count rest
  rw [size_le_iff_length_le (hstarts n) (hstarts m), length_slice, length_slice]
  omega

section Transformed

variable {d : Declarations Char Γ} {budget : Nat} {transform : String → String} {s : Stream Char} {pos : Nat}

theorem takes_iff (hpos : s.isBoundary pos = true) {text v : String} {next : Nat} :
    Takes d budget transform s pos text v next ↔
      transform (slice (s.rest pos) text.length) = transform text ∧ slice (s.rest pos) text.length = v ∧
        pos + (slice (s.rest pos) text.length).utf8ByteSize = next := by
  rw [Takes, Declarations.runAt_literalWith hpos]
  split
  next hsame => simp [hsame, Step.done]
  next hdiff => simp [hdiff, Step.failed]

theorem reads_iff_takes (hpos : s.isBoundary pos = true) (text : String) :
    transform (slice (s.rest pos) text.length) = transform text ↔
      ∃ v next, Takes d budget transform s pos text v next := by
  simp only [takes_iff hpos, exists_and_left, exists_eq', and_true]

theorem Chosen.mostBytes (hpos : s.isBoundary pos = true) {variants : List (String × α)} {x : String × α}
    (h : Chosen (fun t => transform (slice (s.rest pos) t.length) = transform t) variants x) :
    MostBytes (Takes d budget transform s pos) (s.rest pos) (variants.map Prod.fst) x.1
      (slice (s.rest pos) x.1.length) (pos + (slice (s.rest pos) x.1.length).utf8ByteSize) := by
  refine ⟨List.mem_map_of_mem h.mem, (takes_iff hpos).2 ⟨h.read, rfl, rfl⟩, fun u hu v next htakes => ?_⟩
  obtain ⟨y, hy, rfl⟩ := List.mem_map.1 hu
  obtain ⟨hread, rfl, rfl⟩ := (takes_iff hpos).1 htakes
  rw [Nat.add_le_add_iff_left, size_slice_le_iff]
  exact ⟨h.longest y hy hread, Iff.rfl⟩

theorem Spells.chooses_mostBytes {branch : String × α → Grammar Char Γ β} {value : String × α → β}
    (hpos : s.isBoundary pos = true)
    (hspells : Spells d budget s pos branch (fun t => transform (slice (s.rest pos) t.length) = transform t) value
      fun t => pos + (slice (s.rest pos) t.length).utf8ByteSize)
    (variants : List (String × α)) :
    Chooses pos (variants.map Prod.fst) (fun t => ∃ v next, Takes d budget transform s pos t v next)
      (fun v next => ∃ x ∈ variants, value x = v ∧ MostBytes (Takes d budget transform s pos) (s.rest pos)
        (variants.map Prod.fst) x.1 (slice (s.rest pos) x.1.length) next)
      (d.runAt budget (.alt ((Grammar.byLength variants).map branch)) s pos) := by
  refine (hspells.chooses variants).mono (reads_iff_takes hpos) ?_
  rintro _ _ ⟨x, hx, rfl, rfl⟩
  exact ⟨x, hx.mem, rfl, hx.mostBytes hpos⟩

/-- **Up to a transformation, a choice takes a spelling with most bytes.** From a boundary on it has a value exactly if
one of its spellings, on its own, takes something there; then it takes the same as one of these, which no other one has
more bytes than. Otherwise it fails where it is, and expects all of them. What another spelling takes ends no later
exactly if that has no more characters, or if nothing is left for it. So the choice takes the most that any of its
spellings does where those with no more bytes than another one have no more characters, either. -/
theorem transformed_choice_most_bytes (d : Declarations Char Γ) (budget : Nat) (transform : String → String)
    (s : Stream Char) {pos : Nat} (hpos : s.isBoundary pos = true) :
    (∀ literals : List String,
      Chooses pos literals (fun t => ∃ v next, Takes d budget transform s pos t v next)
        (fun v next => ∃ t, MostBytes (Takes d budget transform s pos) (s.rest pos) literals t v next)
        (d.runAt budget (.stringFromWith literals transform) s pos)) ∧
    (∀ variants : List (String × α),
      Chooses pos (variants.map Prod.fst) (fun t => ∃ v next, Takes d budget transform s pos t v next)
        (fun a next => ∃ t v, (t, a) ∈ variants ∧
          MostBytes (Takes d budget transform s pos) (s.rest pos) (variants.map Prod.fst) t v next)
        (d.runAt budget (.fromVariantsWith variants transform) s pos)) ∧
    ∀ literals : List String,
      (∀ t ∈ literals, ∀ u ∈ literals, u.utf8ByteSize ≤ t.utf8ByteSize → u.length ≤ t.length) →
      ∀ v next w, d.runAt budget (.stringFromWith literals transform) s pos = some (.success v next w) →
      ∀ u ∈ literals, ∀ v' next', Takes d budget transform s pos u v' next' → next' ≤ next := by
  have hliterals (literals : List String) :
      Chooses pos literals (fun t => ∃ v next, Takes d budget transform s pos t v next)
        (fun v next => ∃ t, MostBytes (Takes d budget transform s pos) (s.rest pos) literals t v next)
        (d.runAt budget (.stringFromWith literals transform) s pos) := by
    have hspells : Spells d budget s pos (fun x : String × Unit => .literalWith x.1 transform) _ _ _ :=
      spells_literalWith hpos transform
    have hchooses := hspells.chooses_mostBytes hpos (literals.map fun t => (t, ()))
    rw [map_fst_literals] at hchooses
    refine hchooses.mono (fun _ => Iff.rfl) ?_
    rintro _ next ⟨x, -, rfl, hmost⟩
    exact ⟨x.1, hmost⟩
  refine ⟨hliterals, fun variants => ?_, fun literals hagree v next w hrun u hu v' next' htakes => ?_⟩
  · refine ((spells_literalWith hpos transform).result.chooses_mostBytes hpos variants).mono (fun _ => Iff.rfl) ?_
    rintro _ next ⟨x, hx, rfl, hmost⟩
    exact ⟨x.1, _, hx, hmost⟩
  · obtain ⟨t, hmost⟩ := (hliterals literals).chosen v next w hrun
    exact hmost.longest hagree hu htakes

end Transformed

def Grammar.dashedFrom (words : List String) : Grammar Char (fun _ => String) String :=
  stringFromWith words withoutDashes

/-- Both spellings take something, and what the longer one takes has its dash in another place. -/
theorem transformed_choice_most_bytes_dashes :
    (Stream.ofString "éab-").isBoundary 2 = true ∧
    ∃ w, Declarations.none.runAt 0 (.dashedFrom ["a", "a-b"]) (.ofString "éab-") 2 = some (.success "ab-" 5 w) := by
  have hpos : (Stream.ofString "éab-").isBoundary 2 = true := by decide
  have hlonger : Declarations.none.runAt 0 (.dashed "a-b") (.ofString "éab-") 2 = some (.success "ab-" 5 none) := by
    decide
  have hlaws := transformed_choice_most_bytes (α := Unit) (Γ := fun _ => String) .none 0 withoutDashes _ hpos
  have hchooses := hlaws.1 ["a", "a-b"]
  obtain ⟨v, next, w, hrun⟩ := hchooses.succeeds.2 ⟨"a-b", by decide, _, _, none, hlonger⟩
  obtain ⟨t, hmost⟩ := hchooses.chosen v next w hrun
  -- a spelling with no fewer bytes than the longer one is that one
  obtain rfl : t = "a-b" := by
    have hsize := (hmost.most "a-b" (by decide) _ _ ⟨none, hlonger⟩).1
    rcases List.mem_pair.1 hmost.mem with rfl | rfl
    · exact absurd hsize (by decide)
    · rfl
  obtain ⟨w', htaken⟩ := hmost.taken
  obtain ⟨rfl, rfl, -⟩ := Step.success.inj (Option.some.inj (hlonger.symm.trans htaken))
  exact ⟨hpos, w, hrun⟩

/-- A text with the sign of the kelvin, which looks like a capital letter, as the small letter. -/
def withoutKelvin (text : String) : String :=
  String.ofList (text.toList.map fun c => if c = '\u212a' then 'k' else c)

def Grammar.kelvin (text : String) : Grammar Char (fun _ => String) String := literalWith text withoutKelvin

/-- The sign of the kelvin has more bytes than two letters, and takes only one. -/
theorem transformed_choice_kelvin :
    Declarations.none.runAt 0 (.stringFromWith ["\u212a", "kk"] withoutKelvin : Grammar Char (fun _ => String) String)
      (.ofString "kk") 0 = some (.success "k" 1 none) ∧
    Declarations.none.runAt 0 (.kelvin "kk") (.ofString "kk") 0 = some (.success "kk" 2 none) ∧
    "k".length < "kk".length := by
  have hsorted : Grammar.byLength (["\u212a", "kk"].map fun t => (t, ())) = [("\u212a", ()), ("kk", ())] :=
    List.mergeSort_of_pairwise (by decide)
  rw [Grammar.stringFromWith, hsorted]
  decide

end Descent
