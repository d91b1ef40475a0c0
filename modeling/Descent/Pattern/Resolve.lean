import Descent.Pattern.CharClass
import Descent.Pattern.Expr
import Descent.Pattern.Reader

/-!
# Resolving patterns

* `Flags`: what is being switched while a pattern is resolved
* `Tree.resolve?`: applies the flags of a written pattern and looks its classes up, for characters or for bytes
-/

namespace Descent.Pattern

/-- What is being switched while a pattern is resolved. -/
structure Flags where
  ignoreCase : Bool
  multiLine : Bool
  dotAll : Bool
  swapGreed : Bool
  unicode : Bool
  crlf : Bool

namespace Flags

def default : Flags := ⟨false, false, false, false, true, false⟩

def set (f : Flags) : Flag × Bool → Flags
  | (.ignoreCase, on) => { f with ignoreCase := on }
  | (.multiLine, on) => { f with multiLine := on }
  | (.dotAll, on) => { f with dotAll := on }
  | (.swapGreed, on) => { f with swapGreed := on }
  | (.unicode, on) => { f with unicode := on }
  | (.crlf, on) => { f with crlf := on }
  | (.ignoreBlanks, _) => f

def apply (f : Flags) (changes : List (Flag × Bool)) : Flags := changes.foldl set f

/-- The largest member that a class can have. -/
def last (f : Flags) : Nat := if f.unicode then CodeSet.lastChar else CodeSet.lastByte

/-- A class of characters or bytes. -/
def classExpr (f : Flags) (set : CodeSet) : Expr := if f.unicode then .ofChars set else .ofBytes set

/-- Everything that differs in case alone, if case is ignored. -/
def fold (f : Flags) (set : CodeSet) : CodeSet :=
  if f.ignoreCase then if f.unicode then CaseFold.close set else CaseFold.closeAscii set else set

end Flags

section Resolve

-- With `utf8` set a pattern must not match anything but whole characters.
variable (utf8 : Bool)

/-! ## Classes -/

/-- Folds a class and takes its complement; a class of bytes may be held to ASCII. -/
def foldAndNegate? (f : Flags) (negated : Bool) (set : CodeSet) : Option CodeSet :=
  let set := f.fold set
  let set := if negated then set.complement f.last else set
  if !f.unicode && utf8 && !set.isAscii then none else some set

/-- The code of a literal inside a class. -/
def classLiteral? (f : Flags) (l : Literal) : Option Nat :=
  let n := l.char.toNat
  if f.unicode || n ≤ 0x7f then some n
  else if l.isByte && !utf8 then some n
  else none

/-- A class by its letter, with ASCII members only when Unicode is switched off. -/
def shorthand? (f : Flags) (kind : Shorthand) (negated : Bool) : Option CodeSet :=
  if f.unicode then
    let set := CharClass.shorthand kind
    some (if negated then set.complement f.last else set)
  else
    let set := CharClass.asciiShorthand kind
    let set := if negated then set.complement f.last else set
    if utf8 && negated then none else some set

/-- A class by property, which needs Unicode. -/
def property? (f : Flags) (query : PropertyQuery) (negated : Bool) : Option CodeSet :=
  if f.unicode then (CharClass.ofQuery? query).bind (foldAndNegate? utf8 f negated) else none

def combineSets (last : Nat) : SetOperator → CodeSet → CodeSet → CodeSet
  | .intersection => CodeSet.inter last
  | .difference => CodeSet.diff last
  | .symmetricDifference => CodeSet.symmDiff last

mutual

/-- The members of a class. -/
def classSet? (f : Flags) : ClassTree → Option CodeSet
  | .literal l => (classLiteral? utf8 f l).map CodeSet.single
  | .range a b => do return .range (← classLiteral? utf8 f a) (← classLiteral? utf8 f b)
  | .ascii name negated => foldAndNegate? utf8 f negated (CharClass.ascii name)
  | .property query negated => property? utf8 f query negated
  | .shorthand kind negated => shorthand? utf8 f kind negated
  | .bracketed negated inner => do foldAndNegate? utf8 f negated (← classSet? f inner)
  | .union items => unionSet? f items
  | .binary op l r => do
    let left ← classSet? f l
    let right ← classSet? f r
    return combineSets f.last op (f.fold left) (f.fold right)

def unionSet? (f : Flags) : List ClassTree → Option CodeSet
  | [] => some .empty
  | item :: items => do return (← classSet? f item).union (← unionSet? f items)

end

/-! ## Items -/

def resolveLook (f : Flags) : Anchor → Look
  | .lineStart => if f.multiLine then if f.crlf then .lineStartCrlf else .lineStart else .start
  | .lineEnd => if f.multiLine then if f.crlf then .lineEndCrlf else .lineEnd else .stop
  | .textStart => .start
  | .textEnd => .stop
  | .wordBoundary => .word f.unicode
  | .notWordBoundary => .notWord f.unicode
  | .wordStart => .wordStart f.unicode
  | .wordEnd => .wordEnd f.unicode
  | .wordStartHalf => .wordStartHalf f.unicode
  | .wordEndHalf => .wordEndHalf f.unicode

/-- A character or a byte, with its variants in case if case is ignored. -/
def literal? (f : Flags) (l : Literal) : Option Expr :=
  let n := l.char.toNat
  if f.unicode then some (.ofChars (f.fold (.single n)))
  else if n ≤ 0x7f then some (.ofBytes (f.fold (.single n)))
  else if !l.isByte then some (.ofChar l.char)
  else if utf8 then none
  else some (.ofByte n.toUInt8)

/-- Any item but those that end a line. -/
def dot? (f : Flags) : Option Expr :=
  if utf8 && !f.unicode then none
  else
    let ends : CodeSet :=
      if f.dotAll then .empty else if f.crlf then .ofRanges [(10, 10), (13, 13)] else .single 10
    some (f.classExpr (ends.complement f.last))

/-! ## Patterns -/

mutual

/-- Resolves a pattern under some flags; the flags that hold behind it come along. -/
def resolveFrom? (f : Flags) : Tree → Option (Expr × Flags)
  | .empty => some (.empty, f)
  | .flags changes => some (.empty, f.apply changes)
  | .literal l => do return (← literal? utf8 f l, f)
  | .dot => do return (← dot? utf8 f, f)
  | .anchor a => some (.look (resolveLook f a), f)
  | .property query negated => do return (.ofChars (← property? utf8 f query negated), f)
  | .shorthand kind negated => do return (f.classExpr (← shorthand? utf8 f kind negated), f)
  | .bracketed negated inner => do
    return (f.classExpr (← foldAndNegate? utf8 f negated (← classSet? utf8 f inner)), f)
  | .repetition min max greedy body => do
    let (e, f) ← resolveFrom? f body
    return (.repeated min max (greedy != f.swapGreed) e, f)
  | .group (.capture index name) body => do return (.capture index name (← resolveFrom? f body).1, f)
  | .group (.plain changes) body => do return ((← resolveFrom? (f.apply changes) body).1, f)
  | .concat parts => do
    let (es, f) ← resolveAll? f parts
    return (.row es, f)
  | .alternation branches => do
    let (es, f) ← resolveAll? f branches
    return (.choice es, f)

def resolveAll? (f : Flags) : List Tree → Option (List Expr × Flags)
  | [] => some ([], f)
  | t :: ts => do
    let (e, f) ← resolveFrom? f t
    let (es, f) ← resolveAll? f ts
    return (e :: es, f)

end

/-- The meaning of a written pattern; nothing when it names an unknown property, or when it could match a part of a
character although `utf8` is set. -/
def Tree.resolve? (t : Tree) : Option Expr := (resolveFrom? utf8 .default t).map (·.1)

end Resolve

end Descent.Pattern
