import Descent.Parse

/-!
# Sessions with forward declarations

* `Session ι Γ`: declarations, and the handles that a program has on them
* `Session.Op`, `Session.perform`: what a program does with its handles, one operation at a time
* `Session.performAll`: one operation after another

Handles are cloned, and references are taken from them; both stand for the slot that the handle stands for. What a slot is
resolved to may refer to any slot.
-/

namespace Descent

/-- Declarations, and the handles on them, which are known by names. -/
structure Session (ι : Type) [Item ι] (Γ : Nat → Type) where
  declarations : Declarations ι Γ
  /-- The slots that the handles stand for, the newest handle first. -/
  handles : List (String × Nat)

namespace Session

/-- What a program does with its handles. -/
inductive Op (ι : Type) [Item ι] (Γ : Nat → Type) : Type 1 where
  /-- A handle on a fresh slot. -/
  | declare (name : String)
  /-- One more handle on the slot of `other`. -/
  | clone (name other : String)
  /-- A reference that may be put into grammars. -/
  | refer (name : String)
  /-- The grammar is given for the slot that the handle stands for, on which the type of its values depends. -/
  | resolve (name : String) (body : (slot : Nat) → Grammar ι Γ (Γ slot))
  | isResolved (name : String)
  | run {α : Type} (budget : Nat) (g : Grammar ι Γ α) (s : Stream ι) (pos : Nat)

/-- What a program is told. -/
inductive Answer (ι : Type) [Item ι] (Γ : Nat → Type) : Type 1 where
  | done
  /-- There is no handle of this name. -/
  | unknown (name : String)
  | reference {α : Type} (g : Grammar ι Γ α)
  | resolved (outcome : Except DefinitionError Unit)
  | isResolved (answer : Bool)
  /-- What a run came back with, unless its budget was spent. -/
  | ran {α : Type} (step : Option (Step α))

variable {ι : Type} [Item ι] {Γ : Nat → Type}

def empty : Session ι Γ := ⟨.none, []⟩

instance : Inhabited (Session ι Γ) := ⟨empty⟩

/-- The slot that a handle stands for. -/
def slot? (se : Session ι Γ) (name : String) : Option Nat := se.handles.lookup name

def declare (se : Session ι Γ) (name : String) : Session ι Γ :=
  let (slot, declarations) := se.declarations.declare
  ⟨declarations, (name, slot) :: se.handles⟩

/-- One more handle on a slot. -/
def hold (se : Session ι Γ) (name : String) (slot : Nat) : Session ι Γ :=
  { se with handles := (name, slot) :: se.handles }

def resolve (se : Session ι Γ) (slot : Nat) (g : Grammar ι Γ (Γ slot)) : Except DefinitionError (Session ι Γ) :=
  (se.declarations.resolve slot g).map fun declarations => { se with declarations }

/-- What an operation leaves, and what it answers. -/
def perform [DecidableEq ι] (se : Session ι Γ) : Op ι Γ → Session ι Γ × Answer ι Γ
  | .declare name => (se.declare name, .done)
  | .clone name other =>
    match se.slot? other with
    | some slot => (se.hold name slot, .done)
    | none => (se, .unknown other)
  | .refer name =>
    match se.slot? name with
    | some slot => (se, .reference (.ref slot))
    | none => (se, .unknown name)
  | .resolve name body =>
    match se.slot? name with
    | some slot =>
      match se.resolve slot (body slot) with
      | .ok se' => (se', .resolved (.ok ()))
      | .error e => (se, .resolved (.error e))
    | none => (se, .unknown name)
  | .isResolved name =>
    match se.slot? name with
    | some slot => (se, .isResolved (se.declarations.isResolved slot))
    | none => (se, .unknown name)
  | .run budget g s pos => (se, .ran (se.declarations.runAt budget g s pos))

/-- What operations leave that are performed one after another. -/
def performAll [DecidableEq ι] (se : Session ι Γ) : List (Op ι Γ) → Session ι Γ
  | [] => se
  | op :: ops => performAll (se.perform op).1 ops

end Session

end Descent
