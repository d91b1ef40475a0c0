import Descent.Unicode.Revised

/-!
# Quoted text

* `Text.quoted`, `Text.quotedChar`: a string or a character between quotes, with everything that would not
  print as itself escaped
* `Text.quotedSet`, `Text.bracketed`: the written forms of sets and lists
* `Text.escapedBytes`: bytes as ASCII text
-/

namespace Descent.Text

def lowerHexDigits (n : Nat) : List Char := Nat.toDigits 16 n

/-- Controls, formats, surrogates, private use, unassigned code points and separators do not print, nor do marks that
join the character before them and letters that have no form. -/
def printsAsItself (c : Char) : Bool :=
  if c.toNat < 128 then 0x20 ≤ c.toNat && c.toNat < 0x7f
  else match Revised.category c.toNat with
    | .control | .format | .surrogate | .privateUse | .unassigned
    | .lineSeparator | .paragraphSeparator | .spaceSeparator => false
    | .nonspacingMark | .spacingMark | .enclosingMark => !Revised.graphemeExtend.hasChar c
    | _ => !Property.defaultIgnorable.hasChar c

/-- A character inside quotes of the given kind. -/
def escapedChar (quote c : Char) : List Char :=
  if c = '\x00' then ['\\', '0']
  else if c = '\t' then ['\\', 't']
  else if c = '\n' then ['\\', 'n']
  else if c = '\r' then ['\\', 'r']
  else if c = quote ∨ c = '\\' then ['\\', c]
  else if printsAsItself c then [c]
  else ['\\', 'u', '\x7b'] ++ lowerHexDigits c.toNat ++ ['\x7d']

/-- A string between double quotes. -/
def quoted (s : String) : String := String.ofList ('"' :: s.toList.flatMap (escapedChar '"') ++ ['"'])

/-- A character between single quotes. -/
def quotedChar (c : Char) : String := String.ofList ('\'' :: escapedChar '\'' c ++ ['\''])

/-- Texts between square brackets, with commas between them. -/
def bracketed (items : List String) : String := "[" ++ ", ".intercalate items ++ "]"

/-- Quoted strings between braces, with commas between them. -/
def quotedSet (items : List String) : String := "\x7b" ++ ", ".intercalate (items.map quoted) ++ "\x7d"

/-- A byte as ASCII text. -/
def escapedByte (b : UInt8) : List Char :=
  let c := Char.ofNat b.toNat
  if c = '\t' then ['\\', 't']
  else if c = '\n' then ['\\', 'n']
  else if c = '\r' then ['\\', 'r']
  else if c = '\'' ∨ c = '"' ∨ c = '\\' then ['\\', c]
  else if 0x20 ≤ b ∧ b < 0x7f then [c]
  else
    let digits := lowerHexDigits b.toNat
    ['\\', 'x'] ++ List.replicate (2 - digits.length) '0' ++ digits

def escapedBytes (bs : List UInt8) : String := String.ofList (bs.flatMap escapedByte)

end Descent.Text
