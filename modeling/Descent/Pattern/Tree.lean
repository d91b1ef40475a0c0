/-!
# Patterns as they are written

* `Tree`: a pattern, with flags and classes still as they were spelled
* `ClassTree`: what stands between square brackets
* `Tree.height`: how deep a pattern is nested
-/

namespace Descent.Pattern

/-- Settings that a pattern can switch inside itself. -/
inductive Flag where
  | ignoreCase
  | multiLine
  | dotAll
  | swapGreed
  | unicode
  | crlf
  | ignoreBlanks
  deriving DecidableEq, Repr

/-- Conditions on a place between items. -/
inductive Anchor where
  | lineStart
  | lineEnd
  | textStart
  | textEnd
  | wordBoundary
  | notWordBoundary
  | wordStart
  | wordEnd
  | wordStartHalf
  | wordEndHalf
  deriving DecidableEq, Repr

/-- The classes that one letter names. -/
inductive Shorthand where
  | digit
  | space
  | word
  deriving DecidableEq, Repr

/-- A class of Unicode characters by property: by one name, or by a property's name and a value. -/
inductive PropertyQuery where
  | named (name : String)
  | valued (property value : String)
  deriving DecidableEq, Repr

/-- A character, and whether two hexadecimal digits spell it, so that it can stand for a byte. -/
structure Literal where
  char : Char
  isByte : Bool
  deriving DecidableEq, Repr

inductive SetOperator where
  | intersection
  | difference
  | symmetricDifference
  deriving DecidableEq, Repr

/-- What stands between square brackets. -/
inductive ClassTree where
  | literal (l : Literal)
  | range (first last : Literal)
  | ascii (name : String) (negated : Bool)
  | property (query : PropertyQuery) (negated : Bool)
  | shorthand (kind : Shorthand) (negated : Bool)
  | bracketed (negated : Bool) (inner : ClassTree)
  | union (items : List ClassTree)
  | binary (op : SetOperator) (left right : ClassTree)
  deriving Repr

/-- The groups that parentheses make. -/
inductive GroupKind where
  | capture (index : Nat) (name : Option String)
  | plain (flags : List (Flag × Bool))
  deriving DecidableEq, Repr

/-- The flags that a group sets for its body. -/
def GroupKind.flags : GroupKind → List (Flag × Bool)
  | plain changes => changes
  | capture .. => []

/-- A pattern as it is written. -/
inductive Tree where
  | empty
  | flags (changes : List (Flag × Bool))
  | literal (l : Literal)
  | dot
  | anchor (a : Anchor)
  | property (query : PropertyQuery) (negated : Bool)
  | shorthand (kind : Shorthand) (negated : Bool)
  | bracketed (negated : Bool) (inner : ClassTree)
  | repetition (min : Nat) (max : Option Nat) (greedy : Bool) (body : Tree)
  | group (kind : GroupKind) (body : Tree)
  | concat (parts : List Tree)
  | alternation (branches : List Tree)
  deriving Repr

/-! ## Nesting -/

namespace ClassTree

mutual

/-- How many brackets, operators and unions are nested; nothing at all is no union. -/
def height : ClassTree → Nat
  | bracketed _ inner => inner.height + 1
  | union [] => 0
  | union items => heights items + 1
  | binary _ left right => max left.height right.height + 1
  | _ => 0

def heights : List ClassTree → Nat
  | [] => 0
  | item :: items => max item.height (heights items)

end

/-- Items side by side; a single one stands for itself. -/
def ofItems : List ClassTree → ClassTree
  | [item] => item
  | items => union items

end ClassTree

namespace Tree

mutual

/-- How many groups, repetitions, classes, sequences and alternations are nested. -/
def height : Tree → Nat
  | bracketed _ inner => inner.height + 1
  | repetition _ _ _ body => body.height + 1
  | group _ body => body.height + 1
  | concat parts => heights parts + 1
  | alternation branches => heights branches + 1
  | _ => 0

def heights : List Tree → Nat
  | [] => 0
  | part :: parts => max part.height (heights parts)

end

/-- Parts in a row; a single one stands for itself. -/
def ofParts : List Tree → Tree
  | [] => empty
  | [part] => part
  | parts => concat parts

/-- Branches side by side; a single one stands for itself. -/
def ofBranches : List Tree → Tree
  | [branch] => branch
  | branches => alternation branches

end Tree

end Descent.Pattern
