import Descent.Grammar.Text
import Descent.Proofs.Budget
import Descent.Session

/-!
# Declarations are resolved once

`Session.offers se slot ops` are the definitions that resolutions among the operations `ops` hand to a slot, through
whichever handle, in their order. A slot holds the first of them and never another one (`body?_performAll`): a slot that an
operation hands a definition takes it if it has none, and nothing else happens to the definitions (`Effect.body?`).

All else that a program can see of a slot follows from the definition that it holds (`Session.Cell`), and a new
declaration gets a slot for which no handle has stood before (`Session.Sound`). So a session is read off the operations
that came before (`declarations_set_once`).
-/

namespace Descent

variable {ι : Type} [Item ι] {Γ : Nat → Type} {α : Type}

namespace Declarations

section Resolve

variable {d : Declarations ι Γ} {slot : Nat}

theorem isResolved_eq_true_iff : d.isResolved slot = true ↔ ∃ g, d.body? slot = some g := Option.isSome_iff_exists

theorem resolve_of_some {g' : Grammar ι Γ (Γ slot)} (hbody : d.body? slot = some g') (g : Grammar ι Γ (Γ slot)) :
    d.resolve slot g = .error .alreadyResolved := by
  rw [resolve, if_pos (isResolved_eq_true_iff.2 ⟨g', hbody⟩)]

/-- A slot has got a definition, and nothing else has changed. -/
structure Installs (d' d : Declarations ι Γ) (slot : Nat) (g : Grammar ι Γ (Γ slot)) : Prop where
  count : d'.count = d.count
  installed : d'.body? slot = some g
  others : ∀ k, k ≠ slot → d'.body? k = d.body? k

theorem resolve_of_none (hbody : d.body? slot = .none) (g : Grammar ι Γ (Γ slot)) :
    ∃ d', d.resolve slot g = .ok d' ∧ d'.Installs d slot g := by
  have hnot : ¬d.isResolved slot = true := by
    rw [isResolved, hbody]
    exact Bool.false_ne_true
  rw [resolve, if_neg hnot]
  exact ⟨_, rfl, rfl, dif_pos rfl, fun k hk => dif_neg hk⟩

end Resolve

/-! ## Runs with the same definitions -/

variable [DecidableEq ι] {d d' : Declarations ι Γ}

theorem call_congr (h : ∀ slot, d.body? slot = d'.body? slot) (budget slot : Nat) :
    (d.call budget slot : Parser Option ι (Γ slot)) = d'.call budget slot := by
  induction budget generalizing slot with
  | zero =>
    funext s pos
    cases hbody : d.body? slot with
    | none => rw [call_of_none hbody, call_of_none ((h slot).symm.trans hbody)]
    | some g => rw [call_zero hbody, call_zero ((h slot).symm.trans hbody)]
  | succ n ih =>
    funext s pos
    cases hbody : d.body? slot with
    | none => rw [call_of_none hbody, call_of_none ((h slot).symm.trans hbody)]
    | some g => rw [call_succ hbody, call_succ ((h slot).symm.trans hbody), funext ih]

/-- A run depends on what the slots have been resolved to, and not on how many there are. -/
theorem runAt_congr (h : ∀ slot, d.body? slot = d'.body? slot) (budget : Nat) (g : Grammar ι Γ α) (s : Stream ι)
    (pos : Nat) : (d.runAt budget g s pos : Option (Step α)) = d'.runAt budget g s pos := by
  rw [runAt, runAt, parser, parser, funext (call_congr h budget)]

theorem comesTo_ref {slot : Nat} {g : Grammar ι Γ (Γ slot)} (hbody : d.body? slot = some g) {s : Stream ι} {pos : Nat}
    {step : Step (Γ slot)} : d.ComesTo (.ref slot) s pos step ↔ d.ComesTo g s pos step := by
  rw [comesTo_iff, comesTo_iff]
  constructor
  · rintro ⟨n, hrun⟩
    have hmore := runAt_mono (Nat.le_succ n) hrun
    rw [runAt_ref hbody] at hmore
    exact ⟨n, hmore⟩
  · rintro ⟨n, hrun⟩
    refine ⟨n + 1, ?_⟩
    rw [runAt_ref hbody]
    exact hrun

end Declarations

namespace Session

/-! ## Operations, slots and handles -/

def Op.offer? (se : Session ι Γ) (slot : Nat) : Op ι Γ → Option (Grammar ι Γ (Γ slot))
  | .resolve name body => if se.slot? name = some slot then some (body slot) else none
  | _ => none

/-- The definitions that operations hand to a slot, one after another. -/
def offers [DecidableEq ι] (se : Session ι Γ) (slot : Nat) : List (Op ι Γ) → List (Grammar ι Γ (Γ slot))
  | [] => []
  | op :: ops => (op.offer? se slot).toList ++ offers (se.perform op).1 slot ops

section Handles

variable (se : Session ι Γ) {name other : String} (slot : Nat)

theorem slot?_hold_self (name : String) : (se.hold name slot).slot? name = some slot := by
  rw [hold, slot?, List.lookup_cons, BEq.rfl]

theorem slot?_hold_of_ne (hother : other ≠ name) : (se.hold name slot).slot? other = se.slot? other := by
  rw [hold, slot?, List.lookup_cons, beq_false_of_ne hother, slot?]

theorem slot?_declare_self (name : String) : (se.declare name).slot? name = some se.declarations.count :=
  slot?_hold_self ⟨se.declarations.declare.2, se.handles⟩ _ name

theorem slot?_declare_of_ne (hother : other ≠ name) : (se.declare name).slot? other = se.slot? other :=
  slot?_hold_of_ne ⟨se.declarations.declare.2, se.handles⟩ _ hother

end Handles

/-! ## One operation -/

/-- What an operation may do to a session. -/
inductive Effect (se : Session ι Γ) (op : Op ι Γ) : Session ι Γ → Prop
  /-- A slot that is handed a definition has one already. -/
  | nothing (hoffer : ∀ slot g, op.offer? se slot = some g → ∃ g', se.declarations.body? slot = some g') :
      Effect se op se
  | declares (name : String) (hoffer : ∀ slot, op.offer? se slot = none) : Effect se op (se.declare name)
  | holds {name other : String} {slot : Nat} (hother : se.slot? other = some slot)
      (hoffer : ∀ slot, op.offer? se slot = none) : Effect se op (se.hold name slot)
  /-- The only slot that is handed a definition has none, and takes it. -/
  | installs {name : String} {slot : Nat} {g : Grammar ι Γ (Γ slot)} {d : Declarations ι Γ}
      (hname : se.slot? name = some slot) (hbody : se.declarations.body? slot = none)
      (hoffer : op.offer? se slot = some g) (hothers : ∀ k, k ≠ slot → op.offer? se k = none)
      (hd : d.Installs se.declarations slot g) : Effect se op ⟨d, se.handles⟩

section Perform

variable [DecidableEq ι] {se : Session ι Γ} {name : String} {slot : Nat} {body : (slot : Nat) → Grammar ι Γ (Γ slot)}

theorem perform_resolve_of_some {g : Grammar ι Γ (Γ slot)} (hname : se.slot? name = some slot)
    (hbody : se.declarations.body? slot = some g) :
    se.perform (.resolve name body) = (se, .resolved (.error .alreadyResolved)) := by
  simp only [perform, hname, resolve, Declarations.resolve_of_some hbody, Except.map]

theorem perform_resolve_of_none (hname : se.slot? name = some slot) (hbody : se.declarations.body? slot = none)
    (body : (slot : Nat) → Grammar ι Γ (Γ slot)) :
    ∃ d : Declarations ι Γ, d.Installs se.declarations slot (body slot) ∧
      se.perform (.resolve name body) = (⟨d, se.handles⟩, .resolved (.ok ())) := by
  obtain ⟨d, hresolve, hd⟩ := Declarations.resolve_of_none hbody (body slot)
  refine ⟨d, hd, ?_⟩
  simp only [perform, hname, resolve, hresolve, Except.map]

theorem effect_resolve (se : Session ι Γ) (name : String) (body : (slot : Nat) → Grammar ι Γ (Γ slot)) :
    Effect se (.resolve name body) (se.perform (.resolve name body)).1 := by
  cases hname : se.slot? name with
  | none =>
    have hsame : (se.perform (.resolve name body)).1 = se := by simp only [perform, hname]
    rw [hsame]
    refine .nothing fun k g hoffer => ?_
    simp [Op.offer?, hname] at hoffer
  | some slot =>
    have hothers : ∀ k, k ≠ slot → Op.offer? se k (.resolve name body) = none := by
      intro k hk
      simp [Op.offer?, hname, Ne.symm hk]
    cases hbody : se.declarations.body? slot with
    | some g =>
      rw [perform_resolve_of_some hname hbody]
      refine .nothing fun k g' hoffer => ?_
      by_cases hk : k = slot
      · subst hk
        exact ⟨g, hbody⟩
      · rw [hothers k hk] at hoffer
        cases hoffer
    | none =>
      obtain ⟨d, hd, hperform⟩ := perform_resolve_of_none hname hbody body
      rw [hperform]
      exact .installs hname hbody (if_pos hname) hothers hd

theorem effect_perform (se : Session ι Γ) (op : Op ι Γ) : Effect se op (se.perform op).1 := by
  cases op with
  | declare name => exact .declares name fun _ => rfl
  | clone name other =>
    rw [perform]
    cases hother : se.slot? other with
    | none => exact .nothing nofun
    | some slot => exact .holds hother fun _ => rfl
  | refer name =>
    rw [perform]
    cases se.slot? name <;> exact .nothing nofun
  | resolve name body => exact effect_resolve se name body
  | isResolved name =>
    rw [perform]
    cases se.slot? name <;> exact .nothing nofun
  | run budget g s pos => exact .nothing nofun

end Perform

namespace Effect

variable {se se' : Session ι Γ} {op : Op ι Γ}

theorem body? (h : Effect se op se') (slot : Nat) :
    se'.declarations.body? slot = (se.declarations.body? slot).or (op.offer? se slot) := by
  cases h with
  | nothing hoffer =>
    cases hslot : op.offer? se slot with
    | none => exact (Option.or_none ..).symm
    | some g =>
      obtain ⟨g', hbody⟩ := hoffer slot g hslot
      rw [hbody, Option.some_or]
  | declares name hoffer =>
    rw [hoffer, Option.or_none]
    rfl
  | holds hother hoffer =>
    rw [hoffer, Option.or_none]
    rfl
  | @installs name k g d hname hbody hoffer hothers hd =>
    by_cases hslot : slot = k
    · subst hslot
      rw [hbody, hoffer, Option.none_or]
      exact hd.installed
    · rw [hothers slot hslot, Option.or_none]
      exact hd.others slot hslot

theorem count_le (h : Effect se op se') : se.declarations.count ≤ se'.declarations.count := by
  cases h with
  | nothing => exact Nat.le_refl _
  | declares => exact Nat.le_succ _
  | holds => exact Nat.le_refl _
  | installs _ _ _ _ hd => exact Nat.le_of_eq hd.count.symm

end Effect

/-! ## One operation after another -/

section PerformAll

variable [DecidableEq ι]

theorem body?_performAll (se : Session ι Γ) (ops : List (Op ι Γ)) (slot : Nat) :
    (se.performAll ops).declarations.body? slot = (se.declarations.body? slot).or (offers se slot ops).head? := by
  induction ops generalizing se with
  | nil => exact (Option.or_none ..).symm
  | cons op ops ih =>
    rw [performAll, ih, (effect_perform se op).body?, offers, Option.or_assoc]
    cases op.offer? se slot <;> rfl

theorem performAll_append (se : Session ι Γ) (ops more : List (Op ι Γ)) :
    se.performAll (ops ++ more) = (se.performAll ops).performAll more := by
  induction ops generalizing se with
  | nil => rfl
  | cons op ops ih => exact ih _

theorem offers_append (se : Session ι Γ) (slot : Nat) (ops more : List (Op ι Γ)) :
    offers se slot (ops ++ more) = offers se slot ops ++ offers (se.performAll ops) slot more := by
  induction ops generalizing se with
  | nil => rfl
  | cons op ops ih =>
    rw [List.cons_append, offers, offers, ih, List.append_assoc]
    rfl

theorem performAll_preserves {I : Session ι Γ → Prop} (hstep : ∀ se se' op, Effect se op se' → I se → I se')
    {se : Session ι Γ} (hse : I se) (ops : List (Op ι Γ)) : I (se.performAll ops) := by
  induction ops generalizing se with
  | nil => exact hse
  | cons op ops ih => exact ih (hstep _ _ op (effect_perform se op) hse)

theorem count_le_performAll (se : Session ι Γ) (ops : List (Op ι Γ)) :
    se.declarations.count ≤ (se.performAll ops).declarations.count :=
  performAll_preserves (I := fun se' => se.declarations.count ≤ se'.declarations.count)
    (fun _ _ _ heffect hle => Nat.le_trans hle heffect.count_le) (Nat.le_refl _) ops

end PerformAll

/-- Handles stand for slots that have been declared, and no other slots have been resolved. -/
structure Sound (se : Session ι Γ) : Prop where
  handles : ∀ name slot, se.slot? name = some slot → slot < se.declarations.count
  bodies : ∀ slot g, se.declarations.body? slot = some g → slot < se.declarations.count

namespace Sound

variable {se se' : Session ι Γ} {op : Op ι Γ}

theorem empty : (empty : Session ι Γ).Sound := ⟨nofun, nofun⟩

theorem effect (hse : se.Sound) (h : Effect se op se') : se'.Sound := by
  cases h with
  | nothing => exact hse
  | declares name =>
    refine ⟨fun other slot hother => ?_, fun slot g hbody => Nat.lt_succ_of_lt (hse.bodies slot g hbody)⟩
    by_cases hname : other = name
    · subst hname
      rw [slot?_declare_self] at hother
      obtain rfl := Option.some.inj hother
      exact Nat.lt_succ_self _
    · rw [slot?_declare_of_ne se hname] at hother
      exact Nat.lt_succ_of_lt (hse.handles other slot hother)
  | @holds name other slot hother =>
    refine ⟨fun third k hthird => ?_, hse.bodies⟩
    by_cases hname : third = name
    · subst hname
      rw [slot?_hold_self] at hthird
      obtain rfl := Option.some.inj hthird
      exact hse.handles other _ hother
    · rw [slot?_hold_of_ne se slot hname] at hthird
      exact hse.handles third k hthird
  | @installs name slot g d hname hbody hoffer hothers hd =>
    refine ⟨fun other k hother => ?_, fun k g' hk => ?_⟩
    · rw [hd.count]
      exact hse.handles other k hother
    · rw [hd.count]
      by_cases hslot : k = slot
      · subst hslot
        exact hse.handles name k hname
      · rw [hd.others k hslot] at hk
        exact hse.bodies k g' hk

theorem performAll [DecidableEq ι] (hse : se.Sound) (ops : List (Op ι Γ)) : (se.performAll ops).Sound :=
  performAll_preserves (fun _ _ _ heffect hse => hse.effect heffect) hse ops

end Sound

/-! ## What a program sees -/

section Cell

variable [DecidableEq ι]

/-- What a program sees at one moment of a slot that has been handed the definitions `offered`, whichever handle it
uses. -/
structure Cell (se : Session ι Γ) (slot : Nat) (offered : List (Grammar ι Γ (Γ slot))) : Prop where
  /-- The first definition is taken, and all other slots stay as they are. -/
  resolve_first : offered = [] → ∀ name body, se.slot? name = some slot →
    ∃ d : Declarations ι Γ, d.Installs se.declarations slot (body slot) ∧
      se.perform (.resolve name body) = (⟨d, se.handles⟩, .resolved (.ok ()))
  resolve_again : offered ≠ [] → ∀ name body, se.slot? name = some slot →
    se.perform (.resolve name body) = (se, .resolved (.error .alreadyResolved))
  isResolved : ∀ name, se.slot? name = some slot →
    se.perform (.isResolved name) = (se, .isResolved (!offered.isEmpty))
  refer : ∀ name, se.slot? name = some slot → se.perform (.refer name) = (se, .reference (.ref slot))
  run_unresolved : offered = [] → ∀ budget s pos,
    se.perform (.run budget (.ref slot) s pos) = (se, .ran (some (.error .unresolved) : Option (Step (Γ slot))))
  /-- A reference is run as the first definition, with one less of the budget. -/
  run_resolved : ∀ g, offered.head? = some g → ∀ budget s pos,
    se.perform (.run (budget + 1) (.ref slot) s pos) = se.perform (.run budget g s pos)
  comesTo : ∀ g, offered.head? = some g → ∀ s pos step,
    se.declarations.ComesTo (.ref slot) s pos step ↔ se.declarations.ComesTo g s pos step

theorem cell_of_body? {se : Session ι Γ} {slot : Nat} {offered : List (Grammar ι Γ (Γ slot))}
    (hbody : se.declarations.body? slot = offered.head?) : se.Cell slot offered where
  resolve_first h name body hname := by
    subst h
    exact perform_resolve_of_none hname hbody body
  resolve_again h name body hname := by
    obtain ⟨g, rest, rfl⟩ := List.exists_cons_of_ne_nil h
    exact perform_resolve_of_some hname hbody
  isResolved name hname := by
    simp only [perform, hname, Declarations.isResolved, hbody]
    cases offered <;> rfl
  refer name hname := by simp only [perform, hname]
  run_unresolved h budget s pos := by
    subst h
    have hrun : se.declarations.runAt budget (.ref slot) s pos = some (.error .unresolved : Step (Γ slot)) := by
      rw [Declarations.runAt, Parser.run_plain]
      exact Declarations.call_of_none hbody budget
    rw [perform, hrun]
  run_resolved g h budget s pos := by
    rw [perform, perform, Declarations.runAt_ref (hbody.trans h)]
  comesTo g h s pos step := Declarations.comesTo_ref (hbody.trans h)

theorem cell_performAll (ops : List (Op ι Γ)) (slot : Nat) :
    (empty.performAll ops).Cell slot (offers empty slot ops) :=
  cell_of_body? (body?_performAll empty ops slot)

theorem offers_head?_append (ops more : List (Op ι Γ)) {slot : Nat} {g : Grammar ι Γ (Γ slot)}
    (h : (offers empty slot ops).head? = some g) : (offers empty slot (ops ++ more)).head? = some g := by
  rw [offers_append, List.head?_append, h, Option.some_or]

/-- A new declaration gets a slot of its own, and changes nothing about the others. -/
structure Fresh (ops : List (Op ι Γ)) (name : String) (slot : Nat) : Prop where
  handle : ((empty.performAll ops).declare name).slot? name = some slot
  /-- No handle has stood for the slot at any moment, so no reference refers to it. -/
  unused : ∀ earlier, earlier <+: ops → ∀ other, (empty.performAll earlier).slot? other ≠ some slot
  offered : offers empty slot ops = []
  handles : ∀ other, other ≠ name →
    ((empty.performAll ops).declare name).slot? other = (empty.performAll ops).slot? other
  run : ∀ {α : Type} (g : Grammar ι Γ α) (budget : Nat) (s : Stream ι) (pos : Nat),
    (((empty.performAll ops).declare name).declarations.runAt budget g s pos : Option (Step α))
      = (empty.performAll ops).declarations.runAt budget g s pos

theorem fresh_declare (ops : List (Op ι Γ)) (name : String) :
    Fresh ops name (empty.performAll ops).declarations.count where
  handle := slot?_declare_self _ name
  unused earlier hearlier other hother := by
    obtain ⟨more, rfl⟩ := hearlier
    have hbefore := (Sound.empty.performAll earlier).handles other _ hother
    have hgrown := count_le_performAll (empty.performAll earlier) more
    rw [performAll_append] at hbefore
    exact absurd hbefore (Nat.not_lt.2 hgrown)
  offered := by
    have hbody := body?_performAll (empty : Session ι Γ) ops (empty.performAll ops).declarations.count
    rw [show (empty : Session ι Γ).declarations.body? _ = none from rfl, Option.none_or] at hbody
    cases hoffers : offers empty (empty.performAll ops).declarations.count ops with
    | nil => rfl
    | cons g rest =>
      rw [hoffers, List.head?_cons] at hbody
      exact absurd ((Sound.empty.performAll ops).bodies _ g hbody) (Nat.lt_irrefl _)
  handles _ hother := slot?_declare_of_ne _ hother
  run g budget s pos := by
    have hbodies : ∀ slot, ((empty.performAll ops).declare name).declarations.body? slot
        = (empty.performAll ops).declarations.body? slot := fun _ => rfl
    exact Declarations.runAt_congr hbodies budget g s pos

/-- **Declarations are resolved once, for all their handles.** After any operations a slot answers by the definitions that
it has been handed so far: the first is taken, all others are refused, and references are run as the first. A slot that
has been resolved stays resolved to this one. A cloned handle stands for the same slot, and a new declaration gets a slot
of its own, without any effect on the others or on any run. -/
theorem declarations_set_once (ops : List (Op ι Γ)) :
    (∀ slot, (empty.performAll ops).Cell slot (offers empty slot ops)) ∧
    (∀ more slot,
      ((empty.performAll ops).declarations.isResolved slot = true →
        (empty.performAll (ops ++ more)).declarations.isResolved slot = true) ∧
      ∀ g, (offers empty slot ops).head? = some g → (offers empty slot (ops ++ more)).head? = some g) ∧
    (∀ name other slot, (empty.performAll ops).slot? other = some slot →
      (empty.performAll ops).perform (.clone name other) = ((empty.performAll ops).hold name slot, .done) ∧
      ((empty.performAll ops).hold name slot).slot? name = some slot) ∧
    ∀ name, (empty.performAll ops).perform (.declare name) = ((empty.performAll ops).declare name, .done) ∧
      ∃ slot, Fresh ops name slot := by
  refine ⟨cell_performAll ops, fun more slot => ⟨fun h => ?_, fun g h => offers_head?_append ops more h⟩,
    fun name other slot hother => ⟨?_, slot?_hold_self _ slot name⟩, fun name => ⟨rfl, _, fresh_declare ops name⟩⟩
  · obtain ⟨g, hbody⟩ := Declarations.isResolved_eq_true_iff.1 h
    refine Declarations.isResolved_eq_true_iff.2 ⟨g, ?_⟩
    rw [performAll_append, body?_performAll, hbody, Option.some_or]
  · simp only [perform, hother]

end Cell

/-! ## Two handles -/

/-- A declaration with two handles, and a reference from the first of them. -/
def twoHandles : List (Op Char fun _ => String) := [.declare "list", .clone "again" "list", .refer "list"]

/-- It is resolved through the second handle, and then again through the first. -/
def resolvedTwice : List (Op Char fun _ => String) :=
  twoHandles ++ [.resolve "again" fun _ => .literal "x", .resolve "list" fun _ => .literal "y"]

theorem declarations_set_once_twoHandles :
    (∀ budget s pos, (empty.performAll twoHandles).perform (.run budget (.ref 0) s pos)
      = (empty.performAll twoHandles, .ran (some (.error .unresolved) : Option (Step String)))) ∧
    (empty.performAll resolvedTwice).slot? "list" = some 0 ∧ (empty.performAll resolvedTwice).slot? "again" = some 0 ∧
    (empty.performAll resolvedTwice).perform (.resolve "list" fun _ => .literal "z")
      = (empty.performAll resolvedTwice, .resolved (.error .alreadyResolved)) ∧
    (empty.performAll resolvedTwice).perform (.run 1 (.ref 0) (.ofString "x") 0)
      = (empty.performAll resolvedTwice, .ran (some (.success "x" 1 none) : Option (Step String))) ∧
    (empty.performAll resolvedTwice).perform (.run 1 (.ref 0) (.ofString "y") 0)
      = (empty.performAll resolvedTwice, .ran (some (.fail 0 ⟨0, .single "x"⟩) : Option (Step String))) ∧
    ∀ s pos step, (empty.performAll resolvedTwice).declarations.ComesTo (.ref 0) s pos step
      ↔ (empty.performAll resolvedTwice).declarations.ComesTo (.literal "x") s pos step := by
  have hname : (empty.performAll resolvedTwice).slot? "list" = some 0 := rfl
  have hfirst : (offers empty 0 resolvedTwice).head? = some (.literal "x") := rfl
  have hoffered : offers empty 0 resolvedTwice ≠ [] := by
    intro h
    rw [h] at hfirst
    cases hfirst
  have hbefore := (declarations_set_once twoHandles).1 0
  have hafter := (declarations_set_once resolvedTwice).1 0
  have hx : Declarations.runAt (empty.performAll resolvedTwice).declarations 0 (.literal "x") (.ofString "x") 0
      = some (.success "x" 1 none) := by decide
  have hy : Declarations.runAt (empty.performAll resolvedTwice).declarations 0 (.literal "x") (.ofString "y") 0
      = some (.fail 0 ⟨0, .single "x"⟩) := by decide
  refine ⟨hbefore.run_unresolved rfl, hname, rfl, hafter.resolve_again hoffered "list" _ hname, ?_, ?_,
    hafter.comesTo _ hfirst⟩
  · rw [hafter.run_resolved _ hfirst, perform, hx]
  · rw [hafter.run_resolved _ hfirst, perform, hy]

end Session

end Descent
