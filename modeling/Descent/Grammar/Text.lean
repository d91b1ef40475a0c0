import Descent.Grammar
import Descent.Pattern.Search
import Descent.Unicode.Case

/-!
# Grammars of text

* `Grammar.literal`, `literalWith`: a given text, as it is or up to a transformation
* `Grammar.stringFrom`, `fromVariants`: one of several texts, the longer ones first
* `Grammar.matched`, `matchedFirst`: matches of compiled patterns
* `Grammar.pattern`, `patternGroup`, `patternGroups`: matches of patterns
* `Grammar.charFrom`, `letter`, `digit`, `whitespace`, …: characters by class
-/

namespace Descent.Grammar

variable {Γ : Nat → Type} {α : Type}

/-! ## Literals -/

/-- A given text. -/
def literal (text : String) : Grammar Char Γ String := map String.ofList (leaf (.literal text.toList text))

/-- As many characters as a text has, or all that are left if they are fewer, when a transformation makes the same of
them as of the text. -/
def literalWith (text : String) (transform : String → String) : Grammar Char Γ String :=
  let expected := transform text
  map String.ofList (leaf (.upTo text.length (fun cs => transform (String.ofList cs) == expected) text))

/-- Longer spellings before shorter ones; those of one length keep their places. -/
def byLength (variants : List (String × α)) : List (String × α) :=
  variants.mergeSort fun a b => b.1.utf8ByteSize ≤ a.1.utf8ByteSize

def fromVariants (variants : List (String × α)) : Grammar Char Γ α :=
  alt ((byLength variants).map fun v => result (literal v.1) v.2)

def fromVariantsWith (variants : List (String × α)) (transform : String → String) : Grammar Char Γ α :=
  alt ((byLength variants).map fun v => result (literalWith v.1 transform) v.2)

def stringFrom (literals : List String) : Grammar Char Γ String :=
  alt ((byLength (literals.map fun s => (s, ()))).map fun v => literal v.1)

def stringFromWith (literals : List String) (transform : String → String) : Grammar Char Γ String :=
  alt ((byLength (literals.map fun s => (s, ()))).map fun v => literalWith v.1 transform)

/-! ## Patterns -/

/-- A match of a compiled pattern, with what some of its groups matched. -/
def matched (m : Matcher Char) (groups : List Nat) : Grammar Char Γ (List String) :=
  map (List.map String.ofList) (leaf (.pattern m groups))

/-- A match of a compiled pattern, with what the first of some groups matched. -/
def matchedFirst (m : Matcher Char) (groups : List Nat) : Grammar Char Γ String :=
  map (fun values => values.headD "") (matched m groups)

open Pattern in
/-- A match of a pattern, with what some of its groups matched. -/
def patternGroups (source : String) (groups : List Group) : Except DefinitionError (Grammar Char Γ (List String)) :=
  match Expr.ofString true source with
  | .error e => .error e
  | .ok expr =>
    match expr.groups source groups with
    | .error e => .error e
    | .ok indices => .ok (matched (expr.matcher source) indices)

/-- A match of a pattern, with what one of its groups matched. -/
def patternGroup (source : String) (group : Pattern.Group) : Except DefinitionError (Grammar Char Γ String) :=
  (patternGroups source [group]).map (map fun values => values.headD "")

/-- A match of a pattern. -/
def pattern (source : String) : Except DefinitionError (Grammar Char Γ String) := patternGroup source (.index 0)

/-! ## Characters -/

def charFrom (chars : String) : Grammar Char Γ Char :=
  satisfies (chars.toList.contains ·) ("[" ++ chars ++ "]")

def anyChar : Grammar Char Γ Char := satisfies (fun _ => true) "any character"

def letter : Grammar Char Γ Char := satisfies Revised.alphabetic.hasChar "a letter"

/-- A character of any of the number categories. -/
def digit : Grammar Char Γ Char := satisfies (fun c => (Revised.category c.toNat).isNumber) "a digit"

def decimalDigit : Grammar Char Γ Char := charFrom "0123456789"

def whitespace : Grammar Char Γ String := map String.ofList (leaf (.span Property.whiteSpace.hasChar "whitespace"))

end Descent.Grammar
