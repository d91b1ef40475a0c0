import Descent.Grammar
import Descent.NameMap

/-!
# Named parts

* `Grammar.tag`, `Grammar.seqNamed`: parts under names, and the map of their values
* `Grammar.combineTagged`, `Grammar.combineNamed`: a value made of the named parts, where a name that is empty or
  starts with an underscore does not count
-/

namespace Descent.Grammar

variable {ι : Type} [Item ι] {Γ : Nat → Type} {α β : Type}

def tag (name : String) (g : Grammar ι Γ α) : Grammar ι Γ (String × α) := map (fun v => (name, v)) g

/-- Values under names as a map; the last value of a name counts. -/
def toMap (g : Grammar ι Γ (List (String × α))) : Grammar ι Γ (NameMap α) := map NameMap.ofEntries g

/-- Named parts in a row. -/
def seqNamed (parts : List (String × Grammar ι Γ α)) : Grammar ι Γ (NameMap α) :=
  toMap (seq (parts.map fun p => tag p.1 p.2))

/-- Whether a name only marks a part that is not wanted. -/
def isNoise (name : String) : Bool :=
  match name.toList with
  | [] => true
  | c :: _ => c == '_'

/-- A value made of tagged values. -/
def combineTagged (make : NameMap α → β) (g : Grammar ι Γ (List (String × α))) : Grammar ι Γ β :=
  map (fun es => make (NameMap.ofEntries (es.filter fun e => !isNoise e.1))) g

/-- A value made of a map of values. -/
def combineNamed (make : NameMap α → β) (g : Grammar ι Γ (NameMap α)) : Grammar ι Γ β :=
  map (fun m => make (m.filter fun e => !isNoise e.1)) g

end Descent.Grammar
