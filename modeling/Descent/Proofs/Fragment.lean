import Descent.Declarations
import Descent.Grammar.Text

/-!
# Fragments of the grammar language

Many properties hold of all grammars that do without certain leaves or combinators. A `Fragment` names what may occur,
and `Grammar.Within` says that nothing else does, in no part of a grammar and in no grammar that a value or the state of
a routine leads to.

* `Fragment.full`: every grammar
* `Fragment.library`: no parsers written by hand
* `Fragment.witnessed`: besides, nothing that leaves witnesses out
* `Fragment.relative`: nothing that can tell from which offset it is run
-/

namespace Descent

/-- What grammars are made of. -/
structure Fragment (ι : Type) [Item ι] where
  leaf : {α : Type} → Leaf ι α → Prop
  /-- Whether `desc`, `shouldFail` and repetitions up to a terminator may occur, which leave witnesses out. -/
  forgetful : Prop
  /-- Whether `mark` may occur. -/
  marks : Prop

variable {ι : Type} [Item ι] {Γ : Nat → Type} {α β : Type}

/-- Leaves that the library itself offers. -/
def Leaf.IsOffered : Leaf ι α → Prop
  | .handWritten _ => False
  | _ => True

/-- Leaves that look at nothing but the items ahead. -/
def Leaf.LooksAhead : Leaf ι α → Prop
  | .index | .position | .lineInfo | .pattern .. | .handWritten _ => False
  | _ => True

namespace Fragment

def full (ι : Type) [Item ι] : Fragment ι := ⟨fun _ => True, True, True⟩

def library (ι : Type) [Item ι] : Fragment ι := ⟨Leaf.IsOffered, True, True⟩

def witnessed (ι : Type) [Item ι] : Fragment ι := ⟨Leaf.IsOffered, False, True⟩

def relative (ι : Type) [Item ι] : Fragment ι := ⟨Leaf.LooksAhead, True, False⟩

end Fragment

/-- Whether a grammar, with everything that it may go on with, belongs to a fragment. -/
def Grammar.Within (F : Fragment ι) : {α : Type} → Grammar ι Γ α → Prop
  | _, .leaf l => F.leaf l
  | _, .ref _ => True
  | _, .map _ g => g.Within F
  | _, .bind g f => g.Within F ∧ ∀ v, (f v).Within F
  | _, .thenCombine _ g h => g.Within F ∧ h.Within F
  | _, .row _ parts => ∀ i, (parts i).Within F
  | _, .choice _ branches => ∀ i, (branches i).Within F
  | _, .desc _ g => F.forgetful ∧ g.Within F
  | _, .mark g => F.marks ∧ g.Within F
  | _, .peek g => g.Within F
  | _, .shouldFail _ g => F.forgetful ∧ g.Within F
  | _, .debug _ _ g => g.Within F
  | _, .times _ g => g.Within F
  | _, .repeatUntil _ _ g stop => F.forgetful ∧ g.Within F ∧ stop.Within F
  | _, .routine _ _ asked rest =>
    (∀ state last, (asked state last).Within F) ∧ ∀ state last, (rest state last).Within F

def Declarations.Within (F : Fragment ι) (d : Declarations ι Γ) : Prop :=
  ∀ slot g, d.body? slot = some g → g.Within F

/-! ## Smaller and larger fragments -/

structure Fragment.Allows (F F' : Fragment ι) : Prop where
  leaf {α : Type} {l : Leaf ι α} : F.leaf l → F'.leaf l
  forgetful : F.forgetful → F'.forgetful
  marks : F.marks → F'.marks

theorem Fragment.relative_allows : (Fragment.relative ι).Allows (.library ι) where
  leaf {_ l} h := by cases l <;> trivial
  forgetful := id
  marks := False.elim

theorem Grammar.Within.mono {F F' : Fragment ι} (hF : F.Allows F') {g : Grammar ι Γ α} (hg : g.Within F) :
    g.Within F' := by
  induction g with
  | leaf l => exact hF.leaf hg
  | ref slot => trivial
  | map f g ih => exact ih hg
  | bind g f ihg ihf => exact ⟨ihg hg.1, fun v => ihf v (hg.2 v)⟩
  | thenCombine f g h ihg ihh => exact ⟨ihg hg.1, ihh hg.2⟩
  | row n parts ih => exact fun i => ih i (hg i)
  | choice n branches ih => exact fun i => ih i (hg i)
  | desc d g ih => exact ⟨hF.forgetful hg.1, ih hg.2⟩
  | mark g ih => exact ⟨hF.marks hg.1, ih hg.2⟩
  | peek g ih => exact ih hg
  | shouldFail d g ih => exact ⟨hF.forgetful hg.1, ih hg.2⟩
  | debug label inspect g ih => exact ih hg
  | times b g ih => exact ih hg
  | repeatUntil b keep g stop ihg ihs => exact ⟨hF.forgetful hg.1, ihg hg.2.1, ihs hg.2.2⟩
  | routine first turn asked rest iha ihr =>
    exact ⟨fun state last => iha state last (hg.1 state last), fun state last => ihr state last (hg.2 state last)⟩

theorem Declarations.Within.mono {F F' : Fragment ι} (hF : F.Allows F') {d : Declarations ι Γ} (hd : d.Within F) :
    d.Within F' := fun slot g hg => (hd slot g hg).mono hF

/-! ## Combinators made of others -/

theorem Grammar.within_alt {F : Fragment ι} {gs : List (Grammar ι Γ α)} :
    (Grammar.alt gs).Within F ↔ ∀ g ∈ gs, g.Within F := by
  constructor
  · intro h g hg
    obtain ⟨i, rfl⟩ := List.get_of_mem hg
    exact h i
  · exact fun h i => h _ (List.get_mem gs i)

theorem Grammar.within_or {F : Fragment ι} {g h : Grammar ι Γ α} :
    (Grammar.or g h).Within F ↔ g.Within F ∧ h.Within F := by
  simp [Grammar.or, Grammar.within_alt]

/-! ## The whole language -/

theorem Grammar.within_full (g : Grammar ι Γ α) : g.Within (.full ι) := by
  induction g with
  | leaf l => trivial
  | ref slot => trivial
  | map f g ih => exact ih
  | bind g f ihg ihf => exact ⟨ihg, ihf⟩
  | thenCombine f g h ihg ihh => exact ⟨ihg, ihh⟩
  | row n parts ih => exact ih
  | choice n branches ih => exact ih
  | desc d g ih => exact ⟨trivial, ih⟩
  | mark g ih => exact ⟨trivial, ih⟩
  | peek g ih => exact ih
  | shouldFail d g ih => exact ⟨trivial, ih⟩
  | debug label inspect g ih => exact ih
  | times b g ih => exact ih
  | repeatUntil b keep g stop ihg ihs => exact ⟨trivial, ihg, ihs⟩
  | routine first turn asked rest iha ihr => exact ⟨iha, ihr⟩

theorem Declarations.within_full (d : Declarations ι Γ) : d.Within (.full ι) := fun _ g _ => g.within_full

/-! ## A grammar that refers to itself -/

def Grammar.accents : Grammar Char (fun _ => String) String := .or (.append (.literal "é") (.ref 0)) (.literal "ü")

def Declarations.accents : Declarations Char (fun _ => String) := ⟨1, fun _ => some Grammar.accents⟩

theorem Grammar.accents_within {F : Fragment Char} (hF : ∀ items d, F.leaf (.literal items d)) :
    Grammar.accents.Within F :=
  within_or.2 ⟨⟨hF _ _, trivial⟩, hF _ _⟩

theorem Declarations.accents_within {F : Fragment Char} (hF : ∀ items d, F.leaf (.literal items d)) :
    Declarations.accents.Within F := by
  intro slot g hg
  obtain rfl : Grammar.accents = g := Option.some.inj hg
  exact Grammar.accents_within hF

end Descent
