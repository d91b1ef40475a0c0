import Descent.Lexer.Rules

/-!
# Words and punctuation

* `Words.Token`: words of letters and hyphens, and four punctuation marks
* `Words.rules`, `Words.lexer`: the lexer of prose
-/

namespace Descent.Words

inductive Token where
  | word (s : String)
  | comma
  | dot
  | bang
  | question
  deriving DecidableEq, Repr, Inhabited

namespace Token

/-- The token as diagnostics show it. -/
def inspect : Token → String
  | word s => "Word(" ++ Text.quoted s ++ ")"
  | comma => "Comma"
  | dot => "Dot"
  | bang => "Bang"
  | question => "Question"

def isWord : Token → Bool
  | word _ => true
  | _ => false

end Token

instance : Item Token := .single Token.inspect

def isWordChar (c : Char) : Bool := c.isAlpha || c = '-'

/-- The punctuation mark that a character is. -/
def mark? : Char → Option Token
  | ',' => some .comma
  | '.' => some .dot
  | '!' => some .bang
  | '?' => some .question
  | _ => none

/-- Words as long as they get, and marks. -/
def rules : Lexer.Rules Token where
  isBlank := Lexer.isPlainBlank
  next c cs :=
    if isWordChar c then
      let more := cs.takeWhile isWordChar
      (some (.word (String.ofList (c :: more))), more.length)
    else (mark? c, 0)

def lexer : Lexer Token := rules.lexer

end Descent.Words
