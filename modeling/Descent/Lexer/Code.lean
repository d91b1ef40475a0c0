import Descent.Lexer.Rules

/-!
# A small programming language

* `Code.Token`: names, numbers, signs and the word `let`
* `Code.rules`, `Code.lexer`: the lexer of the language
-/

namespace Descent.Code

inductive Token where
  | letWord
  | ident (s : String)
  | num (n : Nat)
  | eq
  | eqEq
  | lParen
  | rParen
  | plus
  | semi
  deriving DecidableEq, Repr, Inhabited

namespace Token

/-- The token as diagnostics show it. -/
def inspect : Token → String
  | letWord => "Let"
  | ident s => "Ident(" ++ Text.quoted s ++ ")"
  | num n => s!"Num({n})"
  | eq => "Eq"
  | eqEq => "EqEq"
  | lParen => "LParen"
  | rParen => "RParen"
  | plus => "Plus"
  | semi => "Semi"

def isIdent : Token → Bool
  | ident _ => true
  | _ => false

def isNum : Token → Bool
  | num _ => true
  | _ => false

end Token

instance : Item Token := .single Token.inspect

def startsName (c : Char) : Bool := c.isAlpha || c = '_'

def isNameChar (c : Char) : Bool := c.isAlphanum || c = '_'

/-- Numbers have to fit 32 bits. -/
def numLimit : Nat := 0x100000000

/-- The sign that a character is, when no longer one begins there. -/
def sign? : Char → Option Token
  | '=' => some .eq
  | '(' => some .lParen
  | ')' => some .rParen
  | '+' => some .plus
  | ';' => some .semi
  | _ => none

/-- Names and numbers as long as they get, and signs. -/
def rules : Lexer.Rules Token where
  isBlank := Lexer.isPlainBlank
  next c cs :=
    if startsName c then
      let more := cs.takeWhile isNameChar
      let name := String.ofList (c :: more)
      (some (if name = "let" then .letWord else .ident name), more.length)
    else if c.isDigit then
      let more := cs.takeWhile Char.isDigit
      let n := (c :: more).foldl (fun n d => 10 * n + (d.toNat - 48)) 0
      (if n < numLimit then some (.num n) else none, more.length)
    else match c, cs with
      | '=', '=' :: _ => (some .eqEq, 1)
      | _, _ => (sign? c, 0)

def lexer : Lexer Token := rules.lexer

end Descent.Code
