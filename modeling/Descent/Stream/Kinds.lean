import Descent.Stream

/-!
# Kinds of streams

* text: characters, which take as many offsets as bytes in UTF-8, and have lines
* bytes, integers and tokens: items of width one without lines
-/

namespace Descent

instance : Item Char where
  width := Char.utf8Size
  width_pos := Char.utf8Size_pos
  describe := Char.toString
  endsLine? := some (· == '\n')

/-- Items that take one offset each and have no lines. -/
@[reducible] def Item.single {ι : Type} (describe : ι → String) : Item ι where
  width _ := 1
  width_pos _ := Nat.one_pos
  describe := describe
  endsLine? := none

instance : Item UInt8 := .single fun b => toString b.toNat

instance : Item Int := .single toString

/-- The stream of the characters of a string. -/
def Stream.ofString (s : String) : Stream Char := .ofList s.toList

end Descent
