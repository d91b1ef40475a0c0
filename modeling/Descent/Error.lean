import Descent.Expected
import Descent.Position

/-!
# Errors

* `DefinitionError`: what is wrong with a grammar, whatever it is run on
* `ParseError`: what is wrong with an input
* `LexError`: a place where no token begins
* each has one `message`, and where reports quote the error itself also one `inspect`
-/

namespace Descent

/-- A mistake in a grammar. -/
inductive DefinitionError where
  | unresolved
  | alreadyResolved
  | invalidPattern (pattern reason : String)
  | unknownGroup (pattern group : String)
  | noLineInfo
  | outOfRange (pos length : Nat)
  | emptyLoop (pos : Nat)
  deriving DecidableEq, Repr, Inhabited

namespace DefinitionError

def message : DefinitionError → String
  | unresolved => "forward declaration is used before it has been resolved"
  | alreadyResolved => "forward declaration has already been resolved"
  | invalidPattern pattern reason => "invalid pattern " ++ Text.quoted pattern ++ ": " ++ reason
  | unknownGroup pattern group => "pattern " ++ Text.quoted pattern ++ " has no group " ++ group
  | noLineInfo => "the stream has no line information"
  | outOfRange pos length => s!"position {pos} is out of a stream of length {length}"
  | emptyLoop pos => s!"unbounded repetition makes no progress at position {pos}"

/-- The name of the kind of error. -/
def kind : DefinitionError → String
  | unresolved => "Unresolved"
  | alreadyResolved => "AlreadyResolved"
  | invalidPattern .. => "InvalidPattern"
  | unknownGroup .. => "UnknownGroup"
  | noLineInfo => "NoLineInfo"
  | outOfRange .. => "OutOfRange"
  | emptyLoop .. => "EmptyLoop"

/-- The kind together with its data, as diagnostics show it. -/
def inspect : DefinitionError → String
  | invalidPattern pattern reason =>
    "InvalidPattern \x7b pattern: " ++ Text.quoted pattern ++ ", reason: " ++ Text.quoted reason ++ " \x7d"
  | unknownGroup pattern group =>
    "UnknownGroup \x7b pattern: " ++ Text.quoted pattern ++ ", group: " ++ Text.quoted group ++ " \x7d"
  | outOfRange pos length => "OutOfRange \x7b pos: " ++ toString pos ++ ", len: " ++ toString length ++ " \x7d"
  | emptyLoop pos => s!"EmptyLoop({pos})"
  | e => e.kind

end DefinitionError

/-- An input that the grammar does not accept: what was expected, and where. -/
structure ParseError where
  position : Position
  expected : Expected
  deriving DecidableEq, Repr, Inhabited

namespace ParseError

def offset (e : ParseError) : Nat := e.position.offset

/-- Whether a description is among what was expected. -/
def expects (e : ParseError) (description : String) : Bool := description ∈ e.expected

def message (e : ParseError) : String := "expected " ++ Expected.phrase e.expected ++ " at " ++ e.position.text

end ParseError

/-- Why a parse returned no value. -/
inductive Error where
  | parse (e : ParseError)
  | definition (e : DefinitionError)
  deriving DecidableEq, Repr, Inhabited

namespace Error

def message : Error → String
  | parse e => e.message
  | definition e => e.message

def parseError? : Error → Option ParseError
  | parse e => some e
  | definition _ => none

def isDefinitional : Error → Bool
  | parse _ => false
  | definition _ => true

end Error

/-- A slice of a source that is no token, with the offsets where it starts and ends. -/
structure LexError where
  slice : String
  start : Nat
  stop : Nat
  deriving DecidableEq, Repr, Inhabited

namespace LexError

def message (e : LexError) : String :=
  "bad token " ++ Text.quoted e.slice ++ s!", range: {e.start}..{e.stop}"

def inspect (e : LexError) : String :=
  "BadToken \x7b slice: " ++ Text.quoted e.slice ++ s!", span: {e.start}..{e.stop} \x7d"

end LexError

end Descent
