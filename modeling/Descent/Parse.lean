import Descent.Declarations

/-!
# Parsing

* `Declarations.runAt`: one step of a grammar from any offset
* `Declarations.parsePartial`: a value from the start of a stream, with the rest of the stream
* `Declarations.parse`: a value from a whole stream
-/

namespace Descent.Declarations

variable {m : Type → Type} [Monitor m] {ι : Type} [Item ι] [DecidableEq ι] {Γ : Nat → Type} {α : Type}

/-- Runs a grammar from an offset. -/
def runAt (d : Declarations ι Γ) (budget : Nat) (g : Grammar ι Γ α) (s : Stream ι) (pos : Nat) : m (Step α) :=
  Parser.run (d.parser budget g) s pos

/-- Parses the start of a stream. A failure is reported at the furthest offset that was reached. -/
def parsePartial (d : Declarations ι Γ) (budget : Nat) (g : Grammar ι Γ α) (s : Stream ι) :
    m (Except Error (α × Stream ι)) := do
  note (.parseStarted s.length)
  match ← runAt d budget g s 0 with
  | .success v next _ => do
    note (.parseFinished next)
    pure (.ok (v, s.dropTo next))
  | .fail _ w =>
    match s.position w.pos with
    | .ok position => do
      let e : ParseError := ⟨position, w.expected⟩
      note (.parseFailed e)
      pure (.error (.parse e))
    | .error e => pure (.error (.definition e))
  | .error e => do
    note (.grammarFailed e)
    pure (.error (.definition e))

/-- Parses a whole stream. -/
def parse (d : Declarations ι Γ) (budget : Nat) (g : Grammar ι Γ α) (s : Stream ι) : m (Except Error α) := do
  let result ← parsePartial d budget (g.skip .eof) s
  pure (result.map (·.1))

end Descent.Declarations
