import Descent.Error
import Descent.Furthest

/-!
# Events

* `Event`: what can be observed while a grammar runs
* `Event.line?`: the log line that an event leaves, if any
* `Monitor m`: a monad that is told of events, and that may give a run up when its budget is spent
* `Option` runs without a record; `Recorded` keeps every event in order
-/

namespace Descent

/-- Something that happens while a grammar is built or runs. -/
inductive Event where
  /-- A parser begins at an offset. -/
  | started (pos : Nat)
  /-- A parser comes back, perhaps with an error. -/
  | ended (error : Option DefinitionError)
  /-- A failure is reported for the first time. -/
  | failed (furthest : Furthest)
  /-- An error is reported for the first time. -/
  | raised (error : DefinitionError)
  /-- A labelled parser tells of its step. -/
  | debugged (line : String)
  | parseStarted (length : Nat)
  | parseFinished (pos : Nat)
  | parseFailed (error : ParseError)
  | grammarFailed (error : DefinitionError)
  | declarationResolved
  | lexed (count : Nat)
  deriving DecidableEq, Repr

/-- The line that an event leaves in a log. -/
def Event.line? : Event → Option String
  | .started _ | .ended _ | .failed _ => none
  | .raised (.emptyLoop pos) => some s!"DEBUG repetition makes no progress at {pos}"
  | .raised _ => none
  | .debugged line => some ("DEBUG " ++ line)
  | .parseStarted length => some s!"TRACE parse started on a stream of length {length}"
  | .parseFinished pos => some s!"TRACE parse finished at {pos}"
  | .parseFailed e => some ("DEBUG parse failed: " ++ e.message)
  | .grammarFailed e => some ("DEBUG grammar error: " ++ e.message)
  | .declarationResolved => some "DEBUG forward declaration resolved"
  | .lexed count => some s!"TRACE lexed {count} tokens"

/-- A monad in which parsers run. -/
class Monitor (m : Type → Type) extends Monad m where
  /-- The budget is spent. -/
  giveUp {α : Type} : m α
  note : Event → m Unit

export Monitor (giveUp note)

instance : Monitor Option where
  giveUp := none
  note _ := some ()

/-- Runs that keep a record of their events. -/
abbrev Recorded (α : Type) : Type := StateT (Array Event) Option α

instance : Monitor Recorded where
  giveUp := fun _ => none
  note e := fun events => some ((), events.push e)

@[simp] theorem note_option (e : Event) : (note e : Option Unit) = some () := rfl

@[simp] theorem giveUp_option {α : Type} : (giveUp : Option α) = none := rfl

end Descent
