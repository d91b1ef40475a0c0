import Descent.Leaf
import Descent.Lexer
import Descent.Stream.Kinds

/-!
# Lexers by rules

* `Lexer.Rules τ`: which characters part tokens, and which token begins where
* `Lexer.Cursor`: a place in a source, with what has been read last
* `Lexer.Rules.lexer`: the lexer that passes over blanks and then takes the token that begins there
-/

namespace Descent.Lexer

/-- Which characters are passed over, and what is taken where none of these is next. -/
structure Rules (τ : Type) where
  /-- Characters between tokens. -/
  isBlank : Char → Bool
  /-- The longest token that begins with a character, given what follows it, and the number of further characters that
  it takes; without a token, the number of further characters that are no good. -/
  next : Char → List Char → Option τ × Nat

/-- A place in a source: what has been read last, the offsets where that starts and stops, and what is left. -/
structure Cursor where
  lexeme : List Char
  start : Nat
  stop : Nat
  rest : List Char

namespace Rules

variable {τ : Type}

/-- Passes over blanks and takes what is next, where this is left from an offset on. -/
def advance (r : Rules τ) : List Char → Nat → Option (Except Unit τ × Cursor)
  | [], _ => none
  | c :: cs, pos =>
    if r.isBlank c then r.advance cs (pos + Item.width c)
    else
      let more := (r.next c cs).2
      let lexeme := c :: cs.take more
      some ((r.next c cs).1.elim (.error ()) .ok, ⟨lexeme, pos, pos + Stream.extent lexeme, cs.drop more⟩)

theorem length_of_advance {r : Rules τ} {text : List Char} {pos : Nat} {token : Except Unit τ} {d : Cursor}
    (h : r.advance text pos = some (token, d)) : d.rest.length < text.length := by
  induction text generalizing pos with
  | nil => cases h
  | cons c cs ih =>
    rw [advance] at h
    split at h
    · exact Nat.lt_succ_of_lt (ih h)
    · obtain ⟨-, rfl⟩ := Prod.mk.inj (Option.some.inj h)
      rw [List.length_drop, List.length_cons]
      omega

def lexer (r : Rules τ) : Lexer τ where
  Delegate := Cursor
  start source := ⟨[], 0, 0, source.toList⟩
  next d := r.advance d.rest d.stop
  span d := (d.start, d.stop)
  slice d := String.ofList d.lexeme
  left d := d.rest.length
  left_lt := length_of_advance

end Rules

/-- Blanks, tabs and the characters that end lines. -/
def isPlainBlank (c : Char) : Bool := c = ' ' || c = '\t' || c = '\r' || c = '\n'

end Descent.Lexer
