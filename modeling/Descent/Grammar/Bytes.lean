import Descent.Grammar
import Descent.Pattern.Search

/-!
# Grammars of bytes

* `Grammar.bytesLiteral`, `bytesLiteralWith`: given bytes, as they are or up to a transformation
* `Grammar.bytesPattern`, `bytesPatternGroup`: matches of patterns
* `Grammar.byteFrom`: one of some bytes
-/

namespace Descent.Grammar

variable {Γ : Nat → Type}

/-- As many bytes as given, when a transformation makes the same of them. -/
def bytesLiteralWith (bytes : List UInt8) (transform : List UInt8 → List UInt8) : Grammar UInt8 Γ (List UInt8) :=
  let expected := transform bytes
  leaf (.exactly bytes.length (fun bs => transform bs == expected) (Text.escapedBytes bytes))

def bytesLiteral (bytes : List UInt8) : Grammar UInt8 Γ (List UInt8) :=
  leaf (.literal bytes (Text.escapedBytes bytes))

open Pattern in
/-- A match of a pattern, with what one of its groups matched. -/
def bytesPatternGroup (source : String) (group : Group) : Except DefinitionError (Grammar UInt8 Γ (List UInt8)) :=
  match Expr.ofString false source with
  | .error e => .error e
  | .ok expr =>
    match expr.group source group with
    | .error e => .error e
    | .ok index => .ok (map (fun values => values.headD []) (leaf (.pattern (expr.matcher source) [index])))

/-- A match of a pattern. -/
def bytesPattern (source : String) : Except DefinitionError (Grammar UInt8 Γ (List UInt8)) :=
  bytesPatternGroup source (.index 0)

def byteFrom (bytes : List UInt8) : Grammar UInt8 Γ UInt8 :=
  satisfies (bytes.contains ·) ("[" ++ Text.escapedBytes bytes ++ "]")

end Descent.Grammar
