/-!
# Characters among bytes

* `Utf8.spell`: the bytes of a character
* `Utf8.firstChar?`: the character that some bytes begin with
* `Utf8.split`: bytes cut into whole characters and stray bytes
-/

namespace Descent.Utf8

/-- The bytes of a character. -/
def spell (c : Char) : List UInt8 := String.utf8EncodeChar c

/-- The character that some bytes begin with, in its shortest form. -/
def firstChar? (bytes : List UInt8) : Option Char := (bytes.take 4).toByteArray.utf8DecodeChar? 0

/-- A whole character, or a byte that belongs to none. -/
inductive Part where
  | whole (c : Char)
  | stray (b : UInt8)
  deriving DecidableEq, Repr

/-- Cuts bytes into whole characters and stray bytes. -/
def split : List UInt8 → List Part
  | [] => []
  | b :: bs =>
    match firstChar? (b :: bs) with
    | some c => .whole c :: split (bs.drop (c.utf8Size - 1))
    | none => .stray b :: split bs
termination_by bs => bs.length
decreasing_by
  · rw [List.length_drop, List.length_cons]
    omega
  · rw [List.length_cons]
    omega

/-- The character that some bytes spell, if they spell just one. -/
def soleChar? (bytes : List UInt8) : Option Char :=
  match split bytes with
  | [.whole c] => some c
  | _ => none

end Descent.Utf8
