import Descent.Pattern.Expr

/-!
# Programs

* `Inst`, `Program`: instructions that a search follows, each naming the ones after it
* `Expr.program`: the program of a pattern

An instruction with several successors lists them in the order of preference. A repetition without a greatest number
leads back to itself. If its body always takes an item, the instruction that begins a repetition is also the one
that each pass comes back to. Otherwise a first pass is optional, and each pass comes to an instruction behind the
body that leads back into it; a pass that takes no item finds the body followed already and leaves the repetition.
-/

namespace Descent.Pattern

/-- One instruction, with the indices of those that may follow it. -/
inductive Inst where
  /-- One character of a set. -/
  | chars (set : CodeSet) (next : Nat)
  /-- One byte of a set. -/
  | bytes (set : CodeSet) (next : Nat)
  /-- Any of these, the first ones preferred. -/
  | split (nexts : List Nat)
  | look (l : Look) (next : Nat)
  /-- Notes the offset in a slot. -/
  | save (slot : Nat) (next : Nat)
  | accept
  deriving Repr, Inhabited

/-- Instructions, and the one to begin with. -/
structure Program where
  insts : Array Inst
  start : Nat
  /-- The number of slots, two for each group. -/
  slots : Nat
  /-- The number of ways from an instruction to a next one. -/
  edges : Nat
  /-- Whether some condition asks for parts of words beyond ASCII. -/
  readsWords : Bool
  deriving Repr, Inhabited

namespace Inst

def nextCount : Inst → Nat
  | split nexts => nexts.length
  | _ => 1

def look? : Inst → Option Look
  | look l _ => some l
  | _ => none

end Inst

/-- A program of some instructions. -/
def Program.ofInsts (insts : Array Inst) (start slots : Nat) : Program where
  insts := insts
  start := start
  slots := slots
  edges := insts.foldl (fun n i => n + i.nextCount) 0
  readsWords := insts.any fun i => i.look?.any Look.readsWords

/-! ## Compiling -/

/-- Instructions written so far, with the one to begin with. -/
abbrev Piece : Type := Nat × Array Inst

/-- Appends an instruction and begins with it. -/
def Piece.push (code : Array Inst) (i : Inst) : Piece := (code.size, code.push i)

/-- The order of a way on and a way out. -/
def preference (greedy : Bool) (on out : Nat) : List Nat := if greedy then [on, out] else [out, on]

/-- The instruction that takes one part of a literal. -/
def Inst.ofPart (next : Nat) : Utf8.Part → Inst
  | .whole c => chars (.single c.toNat) next
  | .stray b => bytes (.single b.toNat) next

/-- Puts the parts of a literal in front. -/
def literalInsts (parts : List Utf8.Part) (p : Piece) : Piece :=
  parts.foldr (fun part p => Piece.push p.2 (.ofPart p.1 part)) p

/-- Puts `n` copies in front. -/
def copies (one : Piece → Piece) : Nat → Piece → Piece
  | 0, p => p
  | n + 1, p => copies one n (one p)

/-- Puts `n` nested optional copies in front, each with a way out to `out`. -/
def optionalCopies (greedy : Bool) (out : Nat) (one : Piece → Piece) : Nat → Piece → Piece
  | 0, p => p
  | n + 1, p =>
    let (entry, code) := one p
    optionalCopies greedy out one n (Piece.push code (.split (preference greedy entry out)))

namespace Expr

mutual

/-- Puts the instructions of a pattern in front of the instruction `next`. -/
def emit (next : Nat) (code : Array Inst) : Expr → Piece
  | empty => (next, code)
  | literal spelling => literalInsts (Utf8.split spelling) (next, code)
  | chars set => Piece.push code (.chars set next)
  | bytes set => Piece.push code (.bytes set next)
  | look l => Piece.push code (.look l next)
  | capture index _ body =>
    let (stop, code) := Piece.push code (.save (2 * index + 1) next)
    let (entry, code) := body.emit stop code
    Piece.push code (.save (2 * index) entry)
  | concat parts => emitRow next code parts
  | alternation branches =>
    let (entries, code) := emitEach next code branches
    Piece.push code (.split entries)
  | repetition min (some max) greedy body =>
    let one (p : Piece) : Piece := body.emit p.1 p.2
    copies one min (optionalCopies greedy next one (max - min) (next, code))
  | repetition min none greedy body =>
    let one (p : Piece) : Piece := body.emit p.1 p.2
    let loop := code.size
    let (entry, code) := body.emit loop (code.push (.split []))
    let code := code.setIfInBounds loop (.split (preference greedy entry next))
    if 0 < min then copies one (min - 1) (entry, code)
    else if body.takesItem then (loop, code)
    else Piece.push code (.split (preference greedy entry next))

/-- Patterns in a row. -/
def emitRow (next : Nat) (code : Array Inst) : List Expr → Piece
  | [] => (next, code)
  | e :: es =>
    let (entry, code) := emitRow next code es
    e.emit entry code

/-- Patterns side by side, with the instruction that each begins with. -/
def emitEach (next : Nat) (code : Array Inst) : List Expr → List Nat × Array Inst
  | [] => ([], code)
  | e :: es =>
    let (entry, code) := e.emit next code
    let (entries, code) := emitEach next code es
    (entry :: entries, code)

end

/-- The program of a pattern. -/
def program (e : Expr) : Program :=
  let (start, code) := e.emit 0 #[.accept]
  .ofInsts code start (2 * e.groupCount)

end Expr

end Descent.Pattern
