import Descent.Text.Utf8
import Descent.Unicode.CodeSet

/-!
# Patterns without flags

* `Expr`: a pattern whose flags have been applied and whose classes are sets
* `Expr.row`, `Expr.choice`, `Expr.repeated`, `Expr.ofChars`, `Expr.ofBytes` build patterns and keep them reduced:
  rows and choices are not nested, literals side by side are one literal, a choice between classes is a class, and
  branches that begin alike share their beginning
* `Expr.captures`: the capturing groups of a pattern

A shared beginning is matched once, before the branches are tried. So `x*a|x*b` first takes as many `x` as can be
followed by `a` or `b`.
-/

namespace Descent.Pattern

/-- Conditions on a place between items, with flags applied. -/
inductive Look where
  | start
  | stop
  | lineStart
  | lineEnd
  | lineStartCrlf
  | lineEndCrlf
  | word (unicode : Bool)
  | notWord (unicode : Bool)
  | wordStart (unicode : Bool)
  | wordEnd (unicode : Bool)
  | wordStartHalf (unicode : Bool)
  | wordEndHalf (unicode : Bool)
  deriving DecidableEq, Repr

/-- Whether a condition asks for parts of words beyond ASCII. -/
def Look.readsWords : Look → Bool
  | word u | notWord u | wordStart u | wordEnd u | wordStartHalf u | wordEndHalf u => u
  | _ => false

/-- A pattern whose flags have been applied. -/
inductive Expr where
  | empty
  /-- Just these bytes; characters are spelled in UTF-8. -/
  | literal (spelling : List UInt8)
  /-- One character. -/
  | chars (set : CodeSet)
  /-- One byte. -/
  | bytes (set : CodeSet)
  | look (l : Look)
  | repetition (min : Nat) (max : Option Nat) (greedy : Bool) (body : Expr)
  | capture (index : Nat) (name : Option String) (body : Expr)
  | concat (parts : List Expr)
  | alternation (branches : List Expr)
  deriving Repr, Inhabited

namespace Expr

/-! ## Comparing -/

mutual

/-- Whether two patterns are the same. -/
def same : Expr → Expr → Bool
  | empty, empty => true
  | literal a, literal b => a == b
  | chars s, chars t => s == t
  | bytes s, bytes t => s == t
  | look l, look m => l == m
  | repetition min max greedy body, repetition min' max' greedy' body' =>
    min == min' && max == max' && greedy == greedy' && body.same body'
  | capture index name body, capture index' name' body' => index == index' && name == name' && body.same body'
  | concat es, concat es' => sameAll es es'
  | alternation es, alternation es' => sameAll es es'
  | _, _ => false

def sameAll : List Expr → List Expr → Bool
  | [], [] => true
  | e :: es, e' :: es' => e.same e' && sameAll es es'
  | _, _ => false

end

/-- What two rows begin with alike. -/
def sharedPrefix : List Expr → List Expr → List Expr
  | e :: es, e' :: es' => if e.same e' then e :: sharedPrefix es es' else []
  | _, _ => []

/-! ## Lengths -/

mutual

/-- A number of items that every match takes at least; nothing when some part of the pattern never matches. -/
def leastLength? : Expr → Option Nat
  | empty | look _ => some 0
  | literal spelling => some spelling.length
  | chars set | bytes set => if set.isEmpty then none else some 1
  | repetition min _ _ body => body.leastLength?.map (min * ·)
  | capture _ _ body => body.leastLength?
  | concat parts => leastOfRow? parts
  | alternation branches => leastOfChoice? branches

def leastOfRow? : List Expr → Option Nat
  | [] => some 0
  | e :: es => do return (← e.leastLength?) + (← leastOfRow? es)

def leastOfChoice? : List Expr → Option Nat
  | [] => none
  | [e] => e.leastLength?
  | e :: es => do return Nat.min (← e.leastLength?) (← leastOfChoice? es)

end

/-- Whether every match takes an item. -/
def takesItem (e : Expr) : Bool := e.leastLength?.any (0 < ·)

mutual

/-- Whether no match takes an item, by the form of the pattern. -/
def takesNothing : Expr → Bool
  | empty | look _ => true
  | literal spelling => spelling.isEmpty
  | chars _ | bytes _ => false
  | repetition _ max _ body => max.isSome && body.takesNothing
  | capture _ _ body => body.takesNothing
  | concat parts => allTakeNothing parts
  | alternation branches => allTakeNothing branches

def allTakeNothing : List Expr → Bool
  | [] => true
  | e :: es => e.takesNothing && allTakeNothing es

end

mutual

/-- The number of nodes. -/
def size : Expr → Nat
  | repetition _ _ _ body => body.size + 1
  | capture _ _ body => body.size + 1
  | concat parts => sizes parts + 1
  | alternation branches => sizes branches + 1
  | _ => 1

def sizes : List Expr → Nat
  | [] => 0
  | e :: es => e.size + sizes es

end

/-! ## Space -/

/-- The bytes that one instruction takes. -/
def instSpace : Nat := 32

/-- The bytes that a choice between two instructions takes. -/
def forkSpace : Nat := 40

/-- The bytes that a class takes: its ranges stand side by side if they are ASCII, and else each is a few bytes in a
row. -/
def classSpace (set : CodeSet) : Nat :=
  if set.isAscii then 2 * instSpace + 8 * set.ranges.size else 850 + 62 * set.ranges.size

mutual

/-- About the bytes that the program of a pattern takes, with each repetition written out. -/
def space : Expr → Nat
  | empty | look _ => instSpace
  | literal spelling => instSpace * spelling.length
  | chars set => classSpace set
  | bytes set => 2 * instSpace + 8 * set.ranges.size
  | repetition min (some max) _ body => max * body.space + (max - min) * forkSpace
  | repetition min none _ body => Nat.max min 1 * body.space + 2 * forkSpace
  | capture _ _ body => body.space + 2 * instSpace
  | concat parts => spaces parts
  | alternation branches => spaces branches + 2 * instSpace

def spaces : List Expr → Nat
  | [] => 0
  | e :: es => e.space + spaces es

end

/-- The most bytes that the program of a pattern may take. -/
def spaceLimit : Nat := 10 * 1024 * 1024

/-! ## Building -/

/-- The pattern that nothing matches. -/
def never : Expr := bytes .empty

def ofChar (c : Char) : Expr := literal (Utf8.spell c)

def ofByte (b : UInt8) : Expr := literal [b]

/-- One character of a set; a set of one character is a literal. -/
def ofChars (set : CodeSet) : Expr :=
  let set := set.withoutSurrogateEnds
  match set.ranges.toList with
  | [] => never
  | [(a, b)] =>
    if h : a = b ∧ a.isValidChar then ofChar (Char.ofNatAux a h.2) else chars set
  | _ => chars set

/-- One byte of a set; a set of one byte is a literal. -/
def ofBytes (set : CodeSet) : Expr :=
  match set.ranges.toList with
  | [(a, b)] => if a = b then ofByte a.toUInt8 else bytes set
  | _ => bytes set

/-- Nothing is repeated no times, and one time is the thing itself. What takes no item is not repeated more than
once. -/
def repeated (min : Nat) (max : Option Nat) (greedy : Bool) (body : Expr) : Expr :=
  let (min, max) := if body.takesNothing then (Nat.min min 1, some (Nat.min (max.getD 1) 1)) else (min, max)
  if max = some 0 then empty else if min = 1 ∧ max = some 1 then body else repetition min max greedy body

/-- The parts of a row. -/
def parts : Expr → List Expr
  | empty => []
  | concat es => es
  | e => [e]

/-- Joins literals that stand side by side. -/
def joinLiterals : List Expr → List Expr
  | [] => []
  | e :: es =>
    match e, joinLiterals es with
    | literal a, literal b :: rest => literal (a ++ b) :: rest
    | e, rest => e :: rest

/-- Patterns one after the other. -/
def row (es : List Expr) : Expr :=
  match joinLiterals (es.flatMap parts) with
  | [] => empty
  | [e] => e
  | es => concat es

/-- The branches of a choice. -/
def branches : Expr → List Expr
  | alternation es => es
  | e => [e]

/-- The character that a literal spells, if it spells just one. -/
def soleChar? : Expr → Option Nat
  | literal spelling => (Utf8.soleChar? spelling).map Char.toNat
  | _ => none

def soleByte? : Expr → Option Nat
  | literal [b] => some b.toNat
  | _ => none

/-- A class as a set of characters; one of bytes can be that if all are ASCII. -/
def charClass? : Expr → Option CodeSet
  | chars set => some set
  | bytes set => if set.isAscii then some set else none
  | _ => none

/-- A class as a set of bytes; one of characters can be that if all are ASCII. -/
def byteClass? : Expr → Option CodeSet
  | bytes set => some set
  | chars set => if set.isAscii then some set else none
  | _ => none

/-- A choice between single characters, between single bytes or between classes, as one class. -/
def classOf? (es : List Expr) : Option Expr :=
  match es.mapM soleChar? with
  | some codes => some (ofChars (.ofMembers codes))
  | none =>
    match es.mapM soleByte? with
    | some codes => some (ofBytes (.ofMembers codes))
    | none =>
      match es.mapM charClass? with
      | some sets => some (ofChars (.unions sets))
      | none => (es.mapM byteClass?).map fun sets => ofBytes (.unions sets)

/-- What several rows begin with alike. -/
def sharedByAll : List (List Expr) → List Expr
  | [] => []
  | es :: rows => rows.foldl sharedPrefix es

/-- The parts of each branch, if each is a row. -/
def rows? (es : List Expr) : Option (List (List Expr)) :=
  es.mapM fun
    | concat parts => some parts
    | _ => none

/-- A choice, with a bound on the number of beginnings that can be shared one inside the other. -/
def choiceWithin : Nat → List Expr → Expr
  | bound, es =>
    match es.flatMap branches with
    | [] => never
    | [e] => e
    | es =>
      match classOf? es, rows? es, bound with
      | some e, _, _ => e
      | none, some rows, n + 1 =>
        let shared := sharedByAll rows
        if shared.isEmpty then alternation es
        else row (shared ++ [choiceWithin n (rows.map fun parts => row (parts.drop shared.length))])
      | none, _, _ => alternation es

/-- Patterns side by side, the first ones preferred. -/
def choice (es : List Expr) : Expr := choiceWithin (sizes es) es

/-! ## Groups -/

mutual

/-- The capturing groups with their names, from left to right. -/
def captures : Expr → List (Nat × Option String)
  | capture index name body => (index, name) :: body.captures
  | repetition _ _ _ body => body.captures
  | concat parts => capturesAll parts
  | alternation branches => capturesAll branches
  | _ => []

def capturesAll : List Expr → List (Nat × Option String)
  | [] => []
  | e :: es => e.captures ++ capturesAll es

end

/-- The number of groups, counting the whole match and any group that was left out before a later one. -/
def groupCount (e : Expr) : Nat := e.captures.foldl (fun n c => max n (c.1 + 1)) 1

/-- The group with a name. -/
def groupNamed? (e : Expr) (name : String) : Option Nat :=
  (e.captures.find? fun c => c.2 = some name).map (·.1)

end Expr

end Descent.Pattern
