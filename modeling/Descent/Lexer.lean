import Descent.Error
import Descent.Event

/-!
# Lexers

* `Lexer τ`: a lexer, by the delegate that goes through a source and hands out one token after another
* `Lexer.collect`: the tokens that a delegate hands out with their spans, up to the first place where it finds none
* `Lexer.tokenizeSpanned`, `Lexer.tokenize`: the same for a whole source
-/

namespace Descent

/-- A lexer, by its delegates. -/
structure Lexer (τ : Type) where
  /-- A place in a source, with what has been read last. -/
  Delegate : Type
  start : String → Delegate
  /-- Reads on to the next token, or over something that is no good; at the end there is nothing. -/
  next : Delegate → Option (Except Unit τ × Delegate)
  /-- The offsets where that starts and stops which has been read last. -/
  span : Delegate → Nat × Nat
  slice : Delegate → String
  /-- A bound on the number of tokens that are left. -/
  left : Delegate → Nat
  left_lt : ∀ {d t d'}, next d = some (.ok t, d') → left d' < left d

namespace Lexer

variable {τ : Type}

/-- The tokens that a delegate still hands out, each with the offsets where it starts and stops. -/
def collect (l : Lexer τ) (d : l.Delegate) (found : Array (τ × Nat × Nat)) :
    Except LexError (List (τ × Nat × Nat)) :=
  match _ : l.next d with
  | none => .ok found.toList
  | some (.ok t, d') => collect l d' (found.push (t, l.span d'))
  | some (.error _, d') => .error ⟨l.slice d', (l.span d').1, (l.span d').2⟩
termination_by l.left d
decreasing_by exact l.left_lt ‹_›

variable {m : Type → Type} [Monitor m]

/-- The tokens of a source with their spans. -/
def tokenizeSpanned (l : Lexer τ) (source : String) : m (Except LexError (List (τ × Nat × Nat))) :=
  match l.collect (l.start source) #[] with
  | .ok tokens => do
    note (.lexed tokens.length)
    pure (.ok tokens)
  | .error e => pure (.error e)

/-- The tokens of a source. -/
def tokenize (l : Lexer τ) (source : String) : m (Except LexError (List τ)) := do
  let result ← tokenizeSpanned l source
  pure (result.map (List.map (·.1)))

end Lexer

end Descent
