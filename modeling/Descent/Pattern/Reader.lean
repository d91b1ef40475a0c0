import Descent.Pattern.Tree
import Descent.Unicode.Revised

/-!
# Reading patterns

* `Tree.ofString?`: the pattern that a text spells, unless it is malformed

The readers below work on what is left of the text. Each returns `none` on a malformed text; the recursive ones take
as fuel a bound on the characters that are left.
-/

namespace Descent.Pattern

/-- The deepest nesting that a pattern may have. -/
def nestLimit : Nat := 250

/-- What is left to read, and what has been seen. -/
structure ReadState where
  rest : List Char
  /-- Blanks and comments between items are passed over. -/
  skipsBlanks : Bool
  /-- The number of capturing groups so far. -/
  captures : Nat
  names : List String

/-- Readers change what is left, or find the text malformed. -/
abbrev Reader (α : Type) : Type := StateT ReadState Option α

namespace Reader

def malformed {α : Type} : Reader α := fun _ => none

def rest : Reader (List Char) := do return (← get).rest

def setRest (cs : List Char) : Reader Unit := modify fun s => { s with rest := cs }

/-- The character in front. -/
def current? : Reader (Option Char) := do return (← rest).head?

def current : Reader Char := do
  match ← rest with
  | c :: _ => pure c
  | [] => malformed

/-- Passes one character over. -/
def bump : Reader Unit := do setRest (← rest).tail

def isBlank (c : Char) : Bool := Property.whiteSpace.hasChar c

/-- Drops blanks, and comments up to the end of their lines. -/
def dropBlanks (inComment : Bool) : List Char → List Char
  | [] => []
  | c :: cs =>
    if inComment then dropBlanks (c ≠ '\n') cs
    else if isBlank c then dropBlanks false cs
    else if c = '#' then dropBlanks true cs
    else c :: cs

/-- Passes blanks and comments over, where they do not count. -/
def skipBlanks : Reader Unit := do
  if (← get).skipsBlanks then setRest (dropBlanks false (← rest))

def bumpAndSkip : Reader Unit := do
  bump
  skipBlanks

/-- The character in front, which the text must still have. -/
def needMore : Reader Unit := do
  let _ ← current

/-- Passes a given text over, if it is in front. -/
def bumpIf (text : String) : Reader Bool := do
  let cs ← rest
  let n := text.length
  if cs.take n = text.toList then
    setRest (cs.drop n)
    pure true
  else pure false

/-- The character after the one in front, past blanks where they do not count. -/
def peekPastBlanks : Reader (Option Char) := do
  let after := (← rest).tail
  if (← get).skipsBlanks then
    match after.dropWhile isBlank with
    | '#' :: cs => pure (cs.dropWhile isBlank).head?
    | cs => pure cs.head?
  else pure after.head?

/-! ## Numbers -/

/-- Decimal digits, with blanks allowed around them; the number has to fit 32 bits. -/
def decimal : Reader Nat := do
  setRest ((← rest).dropWhile isBlank)
  let cs ← rest
  let digits ← digitsLoop cs.length
  setRest ((← rest).dropWhile isBlank)
  skipBlanks
  if digits.isEmpty then malformed
  else
    let n := digits.foldl (fun n c => 10 * n + (c.toNat - 48)) 0
    if n < 0x100000000 then pure n else malformed
where
  digitsLoop : Nat → Reader (List Char)
    | 0 => pure []
    | n + 1 => do
      match ← current? with
      | some c =>
        if '0' ≤ c ∧ c ≤ '9' then do
          bumpAndSkip
          return c :: (← digitsLoop n)
        else pure []
      | none => pure []

def hexDigitAny? (c : Char) : Option Nat := CodeSet.hexDigit? c.toLower

/-- The character with a code point, unless it is a surrogate or too large. -/
def charOfCode? (n : Nat) : Option Char :=
  if h : n.isValidChar then some (Char.ofNatAux n h) else none

def charOfDigits (digits : List Nat) : Reader Char :=
  match charOfCode? (digits.foldl (fun n d => 16 * n + d) 0) with
  | some c => pure c
  | none => malformed

/-- Exactly `n` hexadecimal digits. -/
def hexDigits : Nat → Reader (List Nat)
  | 0 => pure []
  | n + 1 => do
    match hexDigitAny? (← current) with
    | some d =>
      bumpAndSkip
      return d :: (← hexDigits n)
    | none => malformed

/-- Hexadecimal digits up to a closing brace. -/
def bracedHexDigits : (fuel : Nat) → Reader (List Nat)
  | 0 => malformed
  | n + 1 => do
    let c ← current
    if c = '\x7d' then pure []
    else match hexDigitAny? c with
      | some d =>
        bumpAndSkip
        return d :: (← bracedHexDigits n)
      | none => malformed

/-- What follows a backslash and one of `x`, `u`, `U`. -/
def hexEscape : Reader Literal := do
  let kind ← current
  bumpAndSkip
  if (← current) = '\x7b' then
    bumpAndSkip
    let digits ← bracedHexDigits (← rest).length
    bumpAndSkip
    if digits.isEmpty then malformed else return ⟨← charOfDigits digits, false⟩
  else
    let digits ← hexDigits (if kind = 'x' then 2 else if kind = 'u' then 4 else 8)
    return ⟨← charOfDigits digits, kind = 'x'⟩

/-! ## Escapes -/

def isMeta (c : Char) : Bool :=
  ['\\', '.', '+', '*', '?', '(', ')', '|', '[', ']', '\x7b', '\x7d', '^', '$', '#', '&', '-', '~'].contains c

/-- The characters that a backslash leaves as they are. -/
def isEscapable (c : Char) : Bool :=
  isMeta c || (c.toNat < 128 && !c.isAlphanum && c ≠ '<' && c ≠ '>')

/-- The text up to a closing brace, which is left in front. -/
def bracedName : (fuel : Nat) → Reader (List Char)
  | 0 => malformed
  | n + 1 => do
    let c ← current
    if c = '\x7d' then pure []
    else
      bumpAndSkip
      return c :: (← bracedName n)

/-- Where the first of two texts around a mark ends, if the mark occurs. -/
def splitAtMark (mark : List Char) : List Char → Option (List Char × List Char)
  | [] => none
  | c :: cs =>
    if (c :: cs).take mark.length = mark then some ([], (c :: cs).drop mark.length)
    else (splitAtMark mark cs).map fun (a, b) => (c :: a, b)

/-- A property's name, or its name and a value; the flag tells whether an operator denies the value. -/
def queryOf (text : List Char) : PropertyQuery × Bool :=
  match splitAtMark ['!', '='] text with
  | some (p, v) => (.valued (String.ofList p) (String.ofList v), true)
  | none =>
    match splitAtMark [':'] text with
    | some (p, v) => (.valued (String.ofList p) (String.ofList v), false)
    | none =>
      match splitAtMark ['='] text with
      | some (p, v) => (.valued (String.ofList p) (String.ofList v), false)
      | none => (.named (String.ofList text), false)

/-- What follows a backslash in front of `p` or `P`. -/
def propertyEscape : Reader (PropertyQuery × Bool) := do
  let negated := (← current) = 'P'
  bumpAndSkip
  let c ← current
  if c = '\x7b' then
    bumpAndSkip
    let text ← bracedName (← rest).length
    bump
    let (query, denied) := queryOf text
    pure (query, negated != denied)
  else if c = '\\' then malformed
  else
    bumpAndSkip
    pure (.named (String.singleton c), negated)

/-- The letters of a special word boundary. -/
def boundaryName : (fuel : Nat) → Reader (List Char)
  | 0 => pure []
  | n + 1 => do
    match ← current? with
    | some c =>
      if c.isAlpha || c = '-' then do
        bumpAndSkip
        return c :: (← boundaryName n)
      else pure []
    | none => pure []

/-- After a word boundary: a special kind of boundary in braces, or the start of a counted repetition. -/
def wordBoundary : Reader Anchor := do
  match ← rest with
  | '\x7b' :: cs =>
    bumpAndSkip
    let c ← current
    if c.isAlpha || c = '-' then
      let name ← boundaryName (← rest).length
      if (← current) ≠ '\x7d' then malformed
      else
        bump
        match String.ofList name with
        | "start" => pure .wordStart
        | "end" => pure .wordEnd
        | "start-half" => pure .wordStartHalf
        | "end-half" => pure .wordEndHalf
        | _ => malformed
    else
      setRest ('\x7b' :: cs)
      pure .wordBoundary
  | _ => pure .wordBoundary

/-- What a backslash and the characters after it stand for. -/
def escape : Reader Tree := do
  bump
  let c ← current
  match c with
  | 'x' | 'u' | 'U' => return .literal (← hexEscape)
  | 'p' | 'P' => do
    let (query, negated) ← propertyEscape
    pure (.property query negated)
  | 'd' | 'D' => bump; pure (.shorthand .digit (c = 'D'))
  | 's' | 'S' => bump; pure (.shorthand .space (c = 'S'))
  | 'w' | 'W' => bump; pure (.shorthand .word (c = 'W'))
  | _ =>
    bump
    if isEscapable c then pure (.literal ⟨c, false⟩)
    else match c with
      | 'a' => pure (.literal ⟨'\x07', false⟩)
      | 'f' => pure (.literal ⟨'\x0c', false⟩)
      | 't' => pure (.literal ⟨'\t', false⟩)
      | 'n' => pure (.literal ⟨'\n', false⟩)
      | 'r' => pure (.literal ⟨'\r', false⟩)
      | 'v' => pure (.literal ⟨'\x0b', false⟩)
      | 'A' => pure (.anchor .textStart)
      | 'z' => pure (.anchor .textEnd)
      | 'b' => return .anchor (← wordBoundary)
      | 'B' => pure (.anchor .notWordBoundary)
      | '<' => pure (.anchor .wordStart)
      | '>' => pure (.anchor .wordEnd)
      | _ => malformed

/-! ## Classes -/

/-- The classes of ASCII characters that have a name between `[:` and `:]`. -/
def asciiClassNames : List String :=
  ["alnum", "alpha", "ascii", "blank", "cntrl", "digit", "graph", "lower", "print", "punct", "space", "upper",
   "word", "xdigit"]

/-- A named class of ASCII characters, if one is in front. -/
def asciiClass : Reader (Option ClassTree) := do
  match ← rest with
  | '[' :: ':' :: cs =>
    let (negated, cs) : Bool × List Char := match cs with
      | '^' :: cs => (true, cs)
      | cs => (false, cs)
    let name := String.ofList (cs.takeWhile (· ≠ ':'))
    match cs.dropWhile (· ≠ ':') with
    | ':' :: ']' :: cs =>
      if asciiClassNames.contains name then
        setRest cs
        pure (some (.ascii name negated))
      else pure none
    | _ => pure none
  | _ => pure none

/-- One item of a class: a character, or an escape that stands for characters. -/
def classItem : Reader ClassTree := do
  let c ← current
  if c = '\\' then
    match ← escape with
    | .literal l => pure (.literal l)
    | .property query negated => pure (.property query negated)
    | .shorthand kind negated => pure (.shorthand kind negated)
    | _ => malformed
  else
    bump
    pure (.literal ⟨c, false⟩)

/-- One item of a class, or a range between two. -/
def classRange : Reader ClassTree := do
  let first ← classItem
  skipBlanks
  let next ← peekPastBlanks
  if (← current) ≠ '-' || next = some ']' || next = some '-' then pure first
  else
    bumpAndSkip
    needMore
    match first, ← classItem with
    | .literal a, .literal b => if a.char ≤ b.char then pure (.range a b) else malformed
    | _, _ => malformed

/-- Joins the items read last to what stands before the operator in front of them. -/
def joinOperand (left : Option (SetOperator × ClassTree)) (items : List ClassTree) : ClassTree :=
  match left with
  | none => .ofItems items.reverse
  | some (op, l) => .binary op l (.ofItems items.reverse)

/-- Hyphens at the start of a class stand for themselves. -/
def leadingHyphens : (fuel : Nat) → Reader (List ClassTree)
  | 0 => pure []
  | n + 1 => do
    if (← current) = '-' then
      bumpAndSkip
      return .literal ⟨'-', false⟩ :: (← leadingHyphens n)
    else pure []

mutual

/-- A class in brackets, inside `depth` others. -/
def bracketed (depth : Nat) : (fuel : Nat) → Reader (Bool × ClassTree)
  | 0 => malformed
  | n + 1 => do
    if nestLimit < depth then malformed
    bumpAndSkip
    let negated := (← current) = '^'
    if negated then bumpAndSkip
    let hyphens ← leadingHyphens (← rest).length
    if hyphens.isEmpty && (← current) = ']' then
      bumpAndSkip
      needMore
      return (negated, ← classItems depth n none [.literal ⟨']', false⟩])
    else return (negated, ← classItems depth n none hyphens)

/-- The items of a class up to its closing bracket; `items` holds the last ones, newest first. -/
def classItems (depth : Nat) : (fuel : Nat) → Option (SetOperator × ClassTree) → List ClassTree → Reader ClassTree
  | 0, _, _ => malformed
  | n + 1, left, items => do
    skipBlanks
    match ← rest with
    | [] => malformed
    | ']' :: _ => do
      bump
      pure (joinOperand left items)
    | '[' :: _ => do
      match ← asciiClass with
      | some c => classItems depth n left (c :: items)
      | none =>
        let (negated, inner) ← bracketed (depth + 1) n
        classItems depth n left (.bracketed negated inner :: items)
    | '&' :: '&' :: cs => do
      setRest cs
      classItems depth n (some (.intersection, joinOperand left items)) []
    | '-' :: '-' :: cs => do
      setRest cs
      classItems depth n (some (.difference, joinOperand left items)) []
    | '~' :: '~' :: cs => do
      setRest cs
      classItems depth n (some (.symmetricDifference, joinOperand left items)) []
    | _ => do
      let item ← classRange
      classItems depth n left (item :: items)

end

/-! ## Groups -/

def flagOf? : Char → Option Flag
  | 'i' => some .ignoreCase
  | 'm' => some .multiLine
  | 's' => some .dotAll
  | 'U' => some .swapGreed
  | 'u' => some .unicode
  | 'R' => some .crlf
  | 'x' => some .ignoreBlanks
  | _ => none

/-- Flags up to a colon or a closing parenthesis, each at most once; those after a hyphen are switched off. -/
def flagChanges (seen : List (Flag × Bool)) (negates : Bool) : List Char → Option (List (Flag × Bool) × List Char)
  | [] => none
  | c :: cs =>
    if c = ':' ∨ c = ')' then some (seen.reverse, c :: cs)
    else if c = '-' then
      if negates ∨ cs.head? = some ':' ∨ cs.head? = some ')' then none else flagChanges seen true cs
    else match flagOf? c with
      | none => none
      | some f => if seen.any (·.1 = f) then none else flagChanges ((f, !negates) :: seen) negates cs

/-- The characters of a group's name. -/
def isNameChar (first : Bool) (c : Char) : Bool :=
  let letter := Revised.alphabetic.hasChar c
  if first then c = '_' || letter
  else c = '_' || c = '.' || c = '[' || c = ']' || letter || (Revised.category c.toNat).isNumber

/-- A group's name up to the closing angle bracket, which must not be taken. -/
def captureName : Reader String := do
  let cs ← rest
  let name := cs.takeWhile (· ≠ '>')
  match name, cs.drop name.length with
  | c :: more, '>' :: after =>
    let s := String.ofList name
    if isNameChar true c && more.all (isNameChar false) && !(← get).names.contains s then
      modify fun st => { st with rest := after, names := s :: st.names }
      pure s
    else malformed
  | _, _ => malformed

def nextCapture : Reader Nat := do
  let st ← get
  set { st with captures := st.captures + 1 }
  pure (st.captures + 1)

/-- What an opening parenthesis begins. -/
inductive Opening where
  | group (kind : GroupKind)
  | flags (changes : List (Flag × Bool))

def opening : Reader Opening := do
  bump
  skipBlanks
  if (← bumpIf "?=") || (← bumpIf "?!") || (← bumpIf "?<=") || (← bumpIf "?<!") then malformed
  else if ← bumpIf "?P<" then namedGroup
  else if ← bumpIf "?<" then namedGroup
  else if ← bumpIf "?" then
    match flagChanges [] false (← rest) with
    | some (changes, c :: cs) =>
      setRest cs
      if c = ')' then
        if changes.isEmpty then malformed else pure (.flags changes)
      else pure (.group (.plain changes))
    | _ => malformed
  else return .group (.capture (← nextCapture) none)
where
  namedGroup : Reader Opening := do
    let index ← nextCapture
    return .group (.capture index (some (← captureName)))

/-- Switches the passing over of blanks as flags say. -/
def applyBlankFlag (changes : List (Flag × Bool)) : Reader Unit :=
  match changes.lookup .ignoreBlanks with
  | some on => modify fun s => { s with skipsBlanks := on }
  | none => pure ()

/-! ## Repetitions -/

/-- Only something that matches can be repeated. -/
def repeatable : List Tree → Reader (Tree × List Tree)
  | .empty :: _ => malformed
  | .flags _ :: _ => malformed
  | t :: ts => pure (t, ts)
  | [] => malformed

/-- The counts between braces. -/
def counts : Reader (Nat × Option Nat) := do
  bumpAndSkip
  needMore
  let min ← decimal
  if (← current) = ',' then
    bumpAndSkip
    if (← current) = '\x7d' then pure (min, none)
    else return (min, some (← decimal))
  else pure (min, some min)

/-- A question mark after a repetition makes it lazy. -/
def laziness : Reader Bool := do
  if (← current?) = some '?' then
    bump
    pure false
  else pure true

/-- A counted repetition of the last part. -/
def counted (parts : List Tree) : Reader (List Tree) := do
  let (body, before) ← repeatable parts
  let (min, max) ← counts
  if (← current) ≠ '\x7d' then malformed
  else
    bumpAndSkip
    let greedy ← laziness
    if max.any (· < min) then malformed else pure (.repetition min max greedy body :: before)

/-- A repetition of the last part by one of the signs `?`, `*` and `+`. -/
def uncounted (min : Nat) (max : Option Nat) (parts : List Tree) : Reader (List Tree) := do
  let (body, before) ← repeatable parts
  bump
  return .repetition min max (← laziness) body :: before

/-! ## Whole patterns -/

mutual

/-- Branches up to a closing parenthesis or the end, inside `depth` groups. The parts of the branch being read and the
branches before it come newest first. -/
def branches (depth : Nat) : (fuel : Nat) → List Tree → List Tree → Reader Tree
  | 0, _, _ => malformed
  | n + 1, done, parts => do
    skipBlanks
    match ← current? with
    | none | some ')' => pure (.ofBranches (.ofParts parts.reverse :: done).reverse)
    | some '|' => do
      bump
      branches depth n (.ofParts parts.reverse :: done) []
    | some '(' => do
      let part ← parenthesised depth n
      branches depth n done (part :: parts)
    | some '[' => do
      let (negated, inner) ← bracketed 1 n
      branches depth n done (.bracketed negated inner :: parts)
    | some '?' => do branches depth n done (← uncounted 0 (some 1) parts)
    | some '*' => do branches depth n done (← uncounted 0 none parts)
    | some '+' => do branches depth n done (← uncounted 1 none parts)
    | some '\x7b' => do branches depth n done (← counted parts)
    | some '\\' => do branches depth n done ((← escape) :: parts)
    | some '.' => do
      bump
      branches depth n done (.dot :: parts)
    | some '^' => do
      bump
      branches depth n done (.anchor .lineStart :: parts)
    | some '$' => do
      bump
      branches depth n done (.anchor .lineEnd :: parts)
    | some c => do
      bump
      branches depth n done (.literal ⟨c, false⟩ :: parts)

/-- A group, or flags for the rest of the group around them. -/
def parenthesised (depth : Nat) : (fuel : Nat) → Reader Tree
  | 0 => malformed
  | n + 1 => do
    if nestLimit < depth + 1 then malformed
    match ← opening with
    | .flags changes =>
      applyBlankFlag changes
      pure (.flags changes)
    | .group kind =>
      let before := (← get).skipsBlanks
      applyBlankFlag kind.flags
      let body ← branches (depth + 1) n [] []
      if (← current) ≠ ')' then malformed
      else
        bump
        modify fun s => { s with skipsBlanks := before }
        pure (.group kind body)

end

end Reader

/-- The pattern that a text spells; nothing when the text is malformed or nested too deeply. -/
def Tree.ofString? (s : String) : Option Tree := do
  let cs := s.toList
  let (tree, st) ← (Reader.branches 0 (2 * cs.length + 2) [] []).run ⟨cs, false, 0, []⟩
  if st.rest.isEmpty && tree.height ≤ nestLimit then some tree else none

end Descent.Pattern
