import Descent.Leaf
import Descent.Parser.Repeat
import Descent.Parser.Routine

/-!
# Grammars

* `Grammar ι Γ α`: what to read from a stream of `ι`, with forward references to declarations whose values have
  the types `Γ`
* `Grammar.parser`: the parser that a grammar stands for, given one for each reference
* the combinators that are put together from others: `or`, `optional`, `andThen`, `skip`, `sepBy`, `tuple`, …
-/

namespace Descent

/-- What a routine does in a turn, apart from the grammars that it does it with. -/
inductive Move (β : Type) where
  | ask
  | answer (v : β)
  | handOver

/-- What to read from a stream. -/
inductive Grammar (ι : Type) [Item ι] (Γ : Nat → Type) : Type → Type 1 where
  | leaf {α : Type} (l : Leaf ι α) : Grammar ι Γ α
  /-- Whatever the declaration in a slot has been resolved to. -/
  | ref (slot : Nat) : Grammar ι Γ (Γ slot)
  | map {α β : Type} (f : α → β) (g : Grammar ι Γ α) : Grammar ι Γ β
  | bind {α β : Type} (g : Grammar ι Γ α) (f : α → Grammar ι Γ β) : Grammar ι Γ β
  | thenCombine {α β γ : Type} (f : α → β → γ) (g : Grammar ι Γ α) (h : Grammar ι Γ β) : Grammar ι Γ γ
  | row {α : Type} (n : Nat) (parts : Fin n → Grammar ι Γ α) : Grammar ι Γ (List α)
  | choice {α : Type} (n : Nat) (branches : Fin n → Grammar ι Γ α) : Grammar ι Γ α
  | desc {α : Type} (d : String) (g : Grammar ι Γ α) : Grammar ι Γ α
  | mark {α : Type} (g : Grammar ι Γ α) : Grammar ι Γ (Position × α × Position)
  | peek {α : Type} (g : Grammar ι Γ α) : Grammar ι Γ α
  | shouldFail {α : Type} (d : String) (g : Grammar ι Γ α) : Grammar ι Γ Unit
  | debug {α : Type} (label : String) (inspect : α → String) (g : Grammar ι Γ α) : Grammar ι Γ α
  | times {α : Type} (b : Bounds) (g : Grammar ι Γ α) : Grammar ι Γ (List α)
  | repeatUntil {α β : Type} (b : Bounds) (keep : β → Option α) (g : Grammar ι Γ α) (stop : Grammar ι Γ β) :
      Grammar ι Γ (List α)
  | routine {ρ α β : Type} (start : ρ) (turn : ρ → Option α → ρ × Move β) (asked : ρ → Option α → Grammar ι Γ α)
      (rest : ρ → Option α → Grammar ι Γ β) : Grammar ι Γ β

namespace Grammar

variable {ι : Type} [Item ι] {Γ : Nat → Type} {α β γ : Type}

/-! ## Meaning -/

/-- The parser that a grammar stands for. -/
def parser {m : Type → Type} [Monitor m] [DecidableEq ι] (budget : Nat)
    (refs : (slot : Nat) → Parser m ι (Γ slot)) : {α : Type} → Grammar ι Γ α → Parser m ι α
  | _, leaf l => fun s pos =>
    match l.step s pos with
    | .success v next seen => pure (.success v next seen)
    | .fail q w => do
      note (.failed w)
      pure (.fail q w)
    | .error e => Parser.raises e
  | _, ref slot => refs slot
  | _, map f g => Parser.map f (parser budget refs g)
  | _, bind g f => Parser.bind (parser budget refs g) fun v => parser budget refs (f v)
  | _, thenCombine f g h => Parser.thenCombine f (parser budget refs g) (parser budget refs h)
  | _, row _ parts => Parser.seq (List.ofFn fun i => parser budget refs (parts i))
  | _, choice _ branches => Parser.alt (List.ofFn fun i => parser budget refs (branches i))
  | _, desc d g => Parser.desc d (parser budget refs g)
  | _, mark g => Parser.mark (parser budget refs g)
  | _, peek g => Parser.peek (parser budget refs g)
  | _, shouldFail d g => Parser.shouldFail d (parser budget refs g)
  | _, debug label inspect g => Parser.debug label inspect (parser budget refs g)
  | _, times b g => Parser.times budget b (parser budget refs g)
  | _, repeatUntil b keep g stop => Parser.repeatUntil budget b keep (parser budget refs g) (parser budget refs stop)
  | _, routine start turn asked rest =>
    Parser.generate budget start fun state last =>
      match turn state last with
      | (state', .ask) => (state', .ask (parser budget refs (asked state last)))
      | (state', .answer v) => (state', .answer v)
      | (state', .handOver) => (state', .handOver (parser budget refs (rest state last)))

/-! ## Leaves -/

def succeed (v : α) : Grammar ι Γ α := leaf (.succeed v)

def fail (d : String) : Grammar ι Γ α := leaf (.fail d)

def eof : Grammar ι Γ Unit := leaf .eof

def index : Grammar ι Γ Nat := leaf .index

def position : Grammar ι Γ Position := leaf .position

def lineInfo : Grammar ι Γ (Nat × Nat) := leaf .lineInfo

def satisfies (accepts : ι → Bool) (d : String) : Grammar ι Γ ι := leaf (.satisfies accepts d)

def handWritten (step : Stream ι → Nat → Step α) : Grammar ι Γ α := leaf (.handWritten step)

/-- One item, under a name of its own. -/
def matchOneDesc [DecidableEq ι] (item : ι) (d : String) : Grammar ι Γ ι := satisfies (· = item) d

def matchOne [DecidableEq ι] (item : ι) : Grammar ι Γ ι := matchOneDesc item (Item.describe item)

/-- These items, named as a list. -/
def literalItems (items : List ι) : Grammar ι Γ (List ι) := leaf (.literal items (Item.describeAll items))

/-! ## One or another -/

def alt (gs : List (Grammar ι Γ α)) : Grammar ι Γ α := choice gs.length gs.get

def or (g h : Grammar ι Γ α) : Grammar ι Γ α := alt [g, h]

def optional (g : Grammar ι Γ α) : Grammar ι Γ (Option α) := or (map some g) (succeed none)

def optionalOr (g : Grammar ι Γ α) (v : α) : Grammar ι Γ α := or g (succeed v)

/-! ## One after another -/

def result (g : Grammar ι Γ α) (v : β) : Grammar ι Γ β := map (fun _ => v) g

def zip (g : Grammar ι Γ α) (h : Grammar ι Γ β) : Grammar ι Γ (α × β) := thenCombine Prod.mk g h

/-- Both, with the second value. -/
def andThen (g : Grammar ι Γ α) (h : Grammar ι Γ β) : Grammar ι Γ β := thenCombine (fun _ r => r) g h

/-- Both, with the first value. -/
def skip (g : Grammar ι Γ α) (h : Grammar ι Γ β) : Grammar ι Γ α := thenCombine (fun l _ => l) g h

instance : HShiftRight (Grammar ι Γ α) (Grammar ι Γ β) (Grammar ι Γ β) := ⟨andThen⟩

instance : HShiftLeft (Grammar ι Γ α) (Grammar ι Γ β) (Grammar ι Γ α) := ⟨skip⟩

instance : HOr (Grammar ι Γ α) (Grammar ι Γ α) (Grammar ι Γ α) := ⟨or⟩

/-- Both, with the two values joined. -/
def append [Append α] (g h : Grammar ι Γ α) : Grammar ι Γ α := thenCombine (· ++ ·) g h

instance [Append α] : Add (Grammar ι Γ α) := ⟨append⟩

def seq (gs : List (Grammar ι Γ α)) : Grammar ι Γ (List α) := row gs.length gs.get

def takeLeft (g : Grammar ι Γ (α × β)) : Grammar ι Γ α := map (·.1) g

def takeRight (g : Grammar ι Γ (α × β)) : Grammar ι Γ β := map (·.2) g

/-- A value put before the others. -/
def merge (g : Grammar ι Γ (α × List α)) : Grammar ι Γ (List α) := map (fun v => v.1 :: v.2) g

def combine (f : List α → β) (g : Grammar ι Γ (List α)) : Grammar ι Γ β := map f g

/-- The strings of a list, joined. -/
def concat (g : Grammar ι Γ (List String)) : Grammar ι Γ String := map String.join g

/-- The characters of a list as a string. -/
def concatChars (g : Grammar ι Γ (List Char)) : Grammar ι Γ String := map String.ofList g

/-- The lists of a list, joined. -/
def flatten (g : Grammar ι Γ (List (List α))) : Grammar ι Γ (List α) := map List.flatten g

/-! ## Repetition -/

def many (g : Grammar ι Γ α) : Grammar ι Γ (List α) := times .any g

def atLeast (n : Nat) (g : Grammar ι Γ α) : Grammar ι Γ (List α) := times (.atLeast n) g

def atMost (n : Nat) (g : Grammar ι Γ α) : Grammar ι Γ (List α) := times (.atMost n) g

instance : HMul (Grammar ι Γ α) Bounds (Grammar ι Γ (List α)) := ⟨fun g b => times b g⟩

/-- Items with separators between them. -/
def sepByBounded (b : Bounds) (g : Grammar ι Γ α) (separator : Grammar ι Γ β) : Grammar ι Γ (List α) :=
  if b.max = some 0 then succeed []
  else
    let items := merge (zip g (times ⟨b.min - 1, b.max.map (· - 1)⟩ (andThen separator g)))
    if b.min = 0 then or items (succeed []) else items

def sepBy (g : Grammar ι Γ α) (separator : Grammar ι Γ β) : Grammar ι Γ (List α) := sepByBounded .any g separator

/-- Items up to a terminator, which stays unread. -/
def manyUntilBounded (b : Bounds) (g : Grammar ι Γ α) (stop : Grammar ι Γ β) : Grammar ι Γ (List α) :=
  repeatUntil b (fun _ => none) g stop

def manyUntil (g : Grammar ι Γ α) (stop : Grammar ι Γ β) : Grammar ι Γ (List α) := manyUntilBounded .any g stop

/-- Items up to a terminator, whose value comes last. -/
def manyUntilConsume (b : Bounds) (g stop : Grammar ι Γ α) : Grammar ι Γ (List α) := repeatUntil b some g stop

/-! ## Routines -/

/-- What a routine does, without the grammars that it does it with. -/
def moveOf {P Q : Type 1} : Next P Q β → Move β
  | .ask _ => .ask
  | .answer v => .answer v
  | .handOver _ => .handOver

/-- Runs a routine that asks for the value of one grammar after another. -/
def generate {ρ : Type} (start : ρ) (turn : ρ → Option α → ρ × Next (Grammar ι Γ α) (Grammar ι Γ β) β) :
    Grammar ι Γ β :=
  routine start (fun state last => ((turn state last).1, moveOf (turn state last).2))
    (fun state last =>
      match (turn state last).2 with
      | .ask g => g
      | _ => fail "")
    (fun state last =>
      match (turn state last).2 with
      | .handOver g => g
      | _ => fail "")

/-- A routine under a description. -/
def generateDesc {ρ : Type} (d : String) (start : ρ)
    (turn : ρ → Option α → ρ × Next (Grammar ι Γ α) (Grammar ι Γ β) β) : Grammar ι Γ β :=
  desc d (generate start turn)

/-! ## Lists of grammars -/

section Lists

variable {m : Type → Type} [Monitor m] [DecidableEq ι] (budget : Nat) (refs : (slot : Nat) → Parser m ι (Γ slot))
  (gs : List (Grammar ι Γ α))

theorem parsers_get : (List.ofFn fun i => parser budget refs (gs.get i)) = gs.map (parser budget refs) :=
  calc (List.ofFn fun i => parser budget refs (gs.get i))
      = (List.ofFn fun i : Fin gs.length => gs[i]).map (parser budget refs) := List.map_ofFn.symm
    _ = gs.map (parser budget refs) := by rw [show (List.ofFn fun i : Fin gs.length => gs[i]) = gs from List.ofFn_getElem]

theorem parser_alt : (alt gs).parser budget refs = Parser.alt (gs.map (parser budget refs)) := by
  rw [alt, parser, parsers_get]

theorem parser_seq : (seq gs).parser budget refs = Parser.seq (gs.map (parser budget refs)) := by
  rw [seq, parser, parsers_get]

end Lists

end Grammar

end Descent
