import Descent.Pattern.CharClass
import Descent.Pattern.Expr
import Descent.Stream.Kinds

/-!
# What a search sees

* `Haystack ι`: the characters at and before an offset of a stream of `ι`
* `Look.holds`: whether a condition holds at an offset
* `Look.isBehind`: whether it is decided by what lies behind
-/

namespace Descent

namespace Stream

/-- The item before an offset, four offsets back at most. -/
def itemBefore {ι : Type} [Item ι] (s : Stream ι) (pos : Nat) : Option ι :=
  [1, 2, 3, 4].findSome? fun k => if k ≤ pos then s.cells[pos - k]?.join else none

end Stream

namespace Pattern

/-- What a search has to see of a stream. -/
class Haystack (ι : Type) [Item ι] where
  /-- The code of an item, as a byte or as a character. -/
  code : ι → Nat
  /-- The character that starts at an offset, with the number of items that it takes beyond the first. -/
  charAt? : Stream ι → Nat → Option (Char × Nat)
  /-- The character that ends at an offset. -/
  charBefore? : Stream ι → Nat → Option Char

instance : Haystack Char where
  code := Char.toNat
  charAt? s pos := (s.itemAt pos).map fun a => (a.1, 0)
  charBefore? := Stream.itemBefore

/-! ## Characters among bytes -/

namespace Bytes

/-- The character that starts at an offset in UTF-8, with the number of bytes beyond the first. -/
def charAt? (s : Stream UInt8) (pos : Nat) : Option (Char × Nat) :=
  (Utf8.firstChar? (s.between pos (pos + 4))).map fun c => (c, c.utf8Size - 1)

/-- The start of the last run of bytes before an offset that could be one character. -/
def lastStart (s : Stream UInt8) (limit : Nat) : Nat → Nat
  | 0 => 0
  | pos + 1 =>
    if pos + 1 ≤ limit then pos + 1
    else match s.itemAt (pos + 1) with
      | some (b, _) => if b &&& 0xc0 = 0x80 then lastStart s limit pos else pos + 1
      | none => pos + 1

/-- The character that starts nearest before an offset, looking four bytes back at most. -/
def charBefore? (s : Stream UInt8) (pos : Nat) : Option Char :=
  if pos = 0 then none
  else
    let start := lastStart s (pos - 4) (pos - 1)
    match charAt? s start with
    | some (c, more) => if start + more < pos then some c else none
    | none => none

end Bytes

instance : Haystack UInt8 where
  code := UInt8.toNat
  charAt? := Bytes.charAt?
  charBefore? := Bytes.charBefore?

/-! ## Conditions -/

section Look

variable {ι : Type} [Item ι] [Haystack ι]

def codeAt? (s : Stream ι) (pos : Nat) : Option Nat := (s.itemAt pos).map fun a => Haystack.code a.1

def codeBefore? (s : Stream ι) (pos : Nat) : Option Nat := (s.itemBefore pos).map Haystack.code

/-- Whether a part of a word stands at an offset. -/
def wordAt (s : Stream ι) (unicode : Bool) (pos : Nat) : Bool :=
  if unicode then (Haystack.charAt? s pos).any fun c => CharClass.wordChars.hasChar c.1
  else (codeAt? s pos).any CharClass.asciiWord.contains

/-- Whether a part of a word stands before an offset. -/
def wordBefore (s : Stream ι) (unicode : Bool) (pos : Nat) : Bool :=
  if unicode then (Haystack.charBefore? s pos).any CharClass.wordChars.hasChar
  else (codeBefore? s pos).any CharClass.asciiWord.contains

/-- Whether there is no telling what stands at an offset, as it is no character. -/
def unreadableAt (s : Stream ι) (unicode : Bool) (pos : Nat) : Bool :=
  unicode && pos < s.length && (Haystack.charAt? s pos).isNone

def unreadableBefore (s : Stream ι) (unicode : Bool) (pos : Nat) : Bool :=
  unicode && 0 < pos && (Haystack.charBefore? s pos).isNone

/-- Whether a condition holds at an offset. -/
def Look.holds (s : Stream ι) (pos : Nat) : Look → Bool
  | .start => pos == 0
  | .stop => pos == s.length
  | .lineStart => pos == 0 || codeBefore? s pos == some 10
  | .lineEnd => pos == s.length || codeAt? s pos == some 10
  | .lineStartCrlf => pos == 0 || codeBefore? s pos == some 10 || (codeBefore? s pos == some 13 && codeAt? s pos != some 10)
  | .lineEndCrlf => pos == s.length || codeAt? s pos == some 13 || (codeAt? s pos == some 10 && codeBefore? s pos != some 13)
  | .word u => wordBefore s u pos != wordAt s u pos
  | .notWord u => !unreadableBefore s u pos && !unreadableAt s u pos && wordBefore s u pos == wordAt s u pos
  | .wordStart u => !wordBefore s u pos && wordAt s u pos
  | .wordEnd u => wordBefore s u pos && !wordAt s u pos
  | .wordStartHalf u => !unreadableBefore s u pos && !wordBefore s u pos
  | .wordEndHalf u => !unreadableAt s u pos && !wordAt s u pos

/-- Whether what lies behind an offset decides a condition. After a carriage return the item ahead tells whether a
line starts. -/
def Look.isBehind (s : Stream ι) (pos : Nat) : Look → Bool
  | .start | .lineStart | .wordStartHalf _ => true
  | .lineStartCrlf => codeBefore? s pos != some 13
  | _ => false

end Look

end Pattern

end Descent
