import Descent.Event
import Descent.Step
import Descent.Stream

/-!
# Parsers

* `Parser m ι α`: reads a stream of `ι` from an offset and comes back with a step, in a monad `m`
* `Parser.bind`, `map`, `thenCombine`, `seq`: one parser after another
* `Parser.alt`: the first parser that succeeds
* `Parser.desc`, `mark`, `peek`, `shouldFail`, `debug`: what is made of one parser's step

A failure is a step and lets other parsers try; an error is final and passes through every combinator unchanged.
Each combinator adds the witnesses of the steps that it leaves behind to the step that it returns.
-/

namespace Descent

/-- A parser reads a stream from an offset. -/
abbrev Parser (m : Type → Type) (ι α : Type) [Item ι] : Type := Stream ι → Nat → m (Step α)

namespace Parser

variable {m : Type → Type} [Monitor m] {ι α β γ : Type} [Item ι]

/-- Runs a parser under the monitor's eyes. -/
def run (p : Parser m ι α) (s : Stream ι) (pos : Nat) : m (Step α) := do
  note (.started pos)
  let step ← p s pos
  note (.ended step.error?)
  pure step

/-- A first failure. -/
def fails (f : Furthest) : m (Step α) := do
  note (.failed f)
  pure (.fail f.pos f)

/-- A first error. -/
def raises (e : DefinitionError) : m (Step α) := do
  note (.raised e)
  pure (.error e)

/-! ## One after another -/

/-- Goes on with a parser that depends on the value. -/
def bind (p : Parser m ι α) (f : α → Parser m ι β) : Parser m ι β := fun s pos => do
  match ← run p s pos with
  | .success v next seen => do
    let step ← run (f v) s next
    pure (step.aggregate seen)
  | .fail q w => pure (.fail q w)
  | .error e => pure (.error e)

def map (f : α → β) (p : Parser m ι α) : Parser m ι β := fun s pos => do
  let step ← run p s pos
  pure (step.map f)

/-- Two parsers in a row, with their values combined. -/
def thenCombine (f : α → β → γ) (p : Parser m ι α) (q : Parser m ι β) : Parser m ι γ := fun s pos => do
  match ← run p s pos with
  | .success v next seen => do
    let step ← run q s next
    pure ((step.aggregate seen).map (f v))
  | .fail q w => pure (.fail q w)
  | .error e => pure (.error e)

/-- The rest of a row, after some values from `pos` on. -/
def seqFrom (s : Stream ι) : List (Parser m ι α) → Array α → Nat → Option Furthest → m (Step (List α))
  | [], values, pos, seen => pure (.success values.toList pos seen)
  | p :: ps, values, pos, seen => do
    match (← run p s pos).aggregate seen with
    | .success v next w => seqFrom s ps (values.push v) next w
    | .fail q w => pure (.fail q w)
    | .error e => pure (.error e)

/-- All parsers in a row. -/
def seq (ps : List (Parser m ι α)) : Parser m ι (List α) := fun s pos => seqFrom s ps #[] pos none

/-! ## One or another -/

/-- The rest of an alternation, after a failure at `failedAt`, if any parser was tried. -/
def altFrom (s : Stream ι) (pos : Nat) : List (Parser m ι α) → Nat → Option Furthest → m (Step α)
  | [], failedAt, some w => pure (.fail failedAt w)
  | [], _, none => fails (.nothing pos)
  | p :: ps, _, seen => do
    match (← run p s pos).aggregate seen with
    | .fail q w => altFrom s pos ps q (some w)
    | step => pure step

/-- The first parser that succeeds; the failures of those before it stay in the witness. -/
def alt (ps : List (Parser m ι α)) : Parser m ι α := fun s pos => altFrom s pos ps pos none

/-! ## Around one parser -/

/-- A failure that got no further than its start expects the description instead. -/
def desc (d : String) (p : Parser m ι α) : Parser m ι α := fun s pos => do
  match ← run p s pos with
  | .fail q w => if w.pos ≤ pos then fails (.of pos d) else pure (.fail q w)
  | step => pure step

/-- The value with the positions where it starts and ends. -/
def mark (p : Parser m ι α) : Parser m ι (Position × α × Position) := fun s pos => do
  match ← run p s pos with
  | .success v next seen =>
    match s.position pos, s.position next with
    | .ok start, .ok stop => pure (.success (start, v, stop) next seen)
    | .error e, _ => raises e
    | _, .error e => raises e
  | .fail q w => pure (.fail q w)
  | .error e => pure (.error e)

/-- The value without moving. -/
def peek (p : Parser m ι α) : Parser m ι α := fun s pos => do
  match ← run p s pos with
  | .success v _ seen => pure (.success v pos seen)
  | step => pure step

/-- Succeeds without moving where the parser fails. -/
def shouldFail (d : String) (p : Parser m ι α) : Parser m ι Unit := fun s pos => do
  match ← run p s pos with
  | .success .. => fails (.of pos d)
  | .fail .. => pure (.done () pos)
  | .error e => pure (.error e)

/-- Tells the monitor of the step. -/
def debug (label : String) (inspect : α → String) (p : Parser m ι α) : Parser m ι α := fun s pos => do
  let step ← run p s pos
  note (.debugged (step.trail label inspect))
  pure step

end Parser

end Descent
