import Descent.Leaf
import Descent.Pattern.Haystack
import Descent.Pattern.Program
import Descent.Pattern.Resolve
import Descent.Stream.Boundary

/-!
# Searching

* `Program.find`: the preferred match of a program that starts at an offset
* `Program.find_stop`: it ends no earlier than it starts, and at a boundary
* `Expr.ofString`, `Expr.matcher`: a pattern from its text, and its matcher
* `Expr.group`: the number of a group that is asked for by number or by name

A search follows all ways through the program at once, item by item, and keeps them in the order of preference. Of two
ways that come to one instruction at one offset only the first is followed on.

A match is found in up to two passes. The first finds its end. There a way that meets a condition on what lies ahead
stays with it until all ways have arrived; if then any such condition holds, all ways are followed once more from
where they are. The second pass finds the groups, no further than to that end, and settles each condition as a way
comes to it. The first pass cannot tell words beyond ASCII, and leaves all to the second where they matter.
-/

namespace Descent.Pattern

/-- Offsets noted by the groups of a way. -/
abbrev Slots : Type := Array (Option Nat)

/-- A way through a program: it waits for some items to pass and then goes on at an instruction. -/
structure Thread where
  waits : Nat
  pc : Nat
  slots : Slots
  deriving Inhabited

/-- The ways that wait at an offset, best first. An instruction that has been reached at this offset carries the mark
of this offset in `seen`. -/
structure Front where
  threads : Array Thread
  seen : Array Nat

/-- What a pass looks for. -/
inductive Pass where
  | ends
  | groups
  deriving DecidableEq, Repr

/-- What a pass finds: the best match with its end, if any, or that it cannot tell. -/
inductive Finding where
  | settled (best : Option (Nat × Slots))
  | unclear

variable {ι : Type} [Item ι] [Haystack ι]

/-! ## Ways -/

/-- Follows ways up to instructions that take an item, through conditions that `passes` lets them through. With `keeps`
set a way also stays with each condition. -/
def follow (p : Program) (pos mark : Nat) (keeps : Bool) (passes : Look → Bool) :
    (fuel : Nat) → List (Nat × Slots) → Front → Front
  | 0, _, front => front
  | _, [], front => front
  | n + 1, (pc, slots) :: ways, front =>
    if front.seen[pc]? = some mark then follow p pos mark keeps passes n ways front
    else
      let front := { front with seen := front.seen.setIfInBounds pc mark }
      match p.insts[pc]? with
      | some (.split nexts) => follow p pos mark keeps passes n (nexts.map (·, slots) ++ ways) front
      | some (.look l next) =>
        let front := if keeps then { front with threads := front.threads.push ⟨0, pc, slots⟩ } else front
        follow p pos mark keeps passes n (if passes l then (next, slots) :: ways else ways) front
      | some (.save slot next) =>
        follow p pos mark keeps passes n ((next, slots.setIfInBounds slot (some pos)) :: ways) front
      | _ => follow p pos mark keeps passes n ways { front with threads := front.threads.push ⟨0, pc, slots⟩ }

/-- Lets a way arrive at an offset, and go on if it has not to wait. -/
def Front.arrive (p : Program) (pos mark : Nat) (keeps : Bool) (passes : Look → Bool) (front : Front) (t : Thread) :
    Front :=
  match t.waits with
  | 0 => follow p pos mark keeps passes (p.edges + 1) [(t.pc, t.slots)] front
  | _ + 1 => { front with threads := front.threads.push t }

/-- Lets a way arrive in a pass. -/
def Pass.arrive (pass : Pass) (p : Program) (s : Stream ι) (pos mark : Nat) (front : Front) (t : Thread) : Front :=
  match pass with
  | ends => front.arrive p pos mark true (fun l => l.isBehind s pos && l.holds s pos) t
  | groups => front.arrive p pos mark false (fun l => l.holds s pos) t

/-- The condition that a way stays with. -/
def Thread.look? (p : Program) (t : Thread) : Option Look :=
  if t.waits = 0 then p.insts[t.pc]?.bind Inst.look? else none

/-- Follows all ways once more if a condition on what lies ahead lets some of them through. -/
def Front.settle (p : Program) (s : Stream ι) (pos mark : Nat) (front : Front) : Front :=
  if front.threads.any fun t => (t.look? p).any fun l => !l.isBehind s pos && l.holds s pos then
    front.threads.foldl (Front.arrive p pos mark true fun l => l.holds s pos) ⟨#[], front.seen⟩
  else front

/-- What a way does with the item at an offset: where it is after it, if it takes the item. -/
def Thread.take? (p : Program) (s : Stream ι) (pos : Nat) (t : Thread) : Option Thread :=
  match t.waits with
  | n + 1 => some { t with waits := n }
  | 0 =>
    match p.insts[t.pc]? with
    | some (.chars set next) =>
      match Haystack.charAt? s pos with
      | some (c, more) => if set.hasChar c then some ⟨more, next, t.slots⟩ else none
      | none => none
    | some (.bytes set next) => if (codeAt? s pos).any set.contains then some ⟨0, next, t.slots⟩ else none
    | _ => none

def Thread.accepts (p : Program) (t : Thread) : Bool :=
  t.waits == 0 && match p.insts[t.pc]? with
    | some .accept => true
    | _ => false

/-- Moves ways past the item at an offset, up to the first that accepts there; its slots come along. -/
def stepThreads (pass : Pass) (p : Program) (s : Stream ι) (pos next mark : Nat) :
    List Thread → Front → Option Slots × Front
  | [], front => (none, front)
  | t :: ts, front =>
    if t.accepts p then (some t.slots, front)
    else match t.take? p s pos with
      | some t => stepThreads pass p s pos next mark ts (pass.arrive p s next mark front t)
      | none => stepThreads pass p s pos next mark ts front

/-! ## Passes -/

/-- Whether a pass cannot tell what an item is: one beyond ASCII, when the program asks for words. -/
def Pass.isLost (pass : Pass) (p : Program) (a : Option ι) : Bool :=
  pass == ends && p.readsWords && a.any fun a => 128 ≤ Haystack.code a

/-- A pass from an offset on, up to a limit. `best` is the best match so far, with its end; `fresh` tells that it has
just been found. -/
def searchFrom (pass : Pass) (p : Program) (s : Stream ι) (limit : Nat) :
    (fuel pos mark : Nat) → (fresh : Bool) → Front → Option (Nat × Slots) → Finding
  | 0, _, _, _, _, best => .settled best
  | n + 1, pos, mark, fresh, front, best =>
    if front.threads.isEmpty && !fresh then .settled best
    else
      let front := if pass = .ends then front.settle p s pos (mark + 1) else front
      match if pos < limit then s.itemAt pos else none with
      | some (a, next) =>
        if pass.isLost p (some a) then .unclear
        else
          let (accepted, after) := stepThreads pass p s pos next (mark + 2) front.threads.toList ⟨#[], front.seen⟩
          let best := match accepted with
            | some slots => some (pos, slots)
            | none => best
          searchFrom pass p s limit n next (mark + 2) accepted.isSome after best
      | none =>
        match front.threads.toList.find? (·.accepts p) with
        | some t => .settled (some (pos, t.slots))
        | none => .settled best

/-- A pass from an offset on, with what lies behind it in view. -/
def Program.search (p : Program) (pass : Pass) (s : Stream ι) (limit pos : Nat) : Finding :=
  if pass.isLost p (s.itemBefore pos) then .unclear
  else
    let front := pass.arrive p s pos 1 ⟨#[], Array.replicate p.insts.size 0⟩ ⟨0, p.start, Array.replicate p.slots none⟩
    searchFrom pass p s limit (limit - pos + 2) pos 1 false front none

/-- The spans of the groups from the second on. -/
def spans : List (Option Nat) → List (Option (Nat × Nat))
  | start :: stop :: rest =>
    (match start, stop with
      | some a, some b => some (a, b)
      | _, _ => none) :: spans rest
  | _ => []

/-- The preferred match that starts at an offset and ends no later than at a limit, with its groups. -/
def Program.findGroups (p : Program) (s : Stream ι) (limit pos : Nat) : Option Match :=
  match p.search .groups s limit pos with
  | .settled (some (stop, slots)) => some ⟨stop, (some (pos, stop) :: (spans slots.toList).tail).toArray⟩
  | _ => none

/-- The preferred match that starts at an offset. -/
def Program.find (p : Program) (s : Stream ι) (pos : Nat) : Option Match :=
  if s.isBoundary pos then
    match p.search .ends s s.length pos with
    | .settled none => none
    | .settled (some (stop, _)) => if p.slots ≤ 2 then some ⟨stop, #[some (pos, stop)]⟩ else p.findGroups s stop pos
    | .unclear => p.findGroups s s.length pos
  else none

/-! ## Where matches end -/

/-- A match ends at an offset of which everything holds that holds of the first one and passes on to the next. -/
theorem searchFrom_stop {pass : Pass} {p : Program} {s : Stream ι} (good : Nat → Prop)
    (step : ∀ {pos a next}, good pos → s.itemAt pos = some (a, next) → good next) {limit n pos mark : Nat}
    {fresh : Bool} {front : Front} {best : Option (Nat × Slots)} (hpos : good pos)
    (hbest : ∀ b, best = some b → good b.1) {r : Nat × Slots}
    (h : searchFrom pass p s limit n pos mark fresh front best = .settled (some r)) : good r.1 := by
  induction n generalizing pos mark fresh front best with
  | zero =>
    cases h
    exact hbest r rfl
  | succ n ih =>
    rw [searchFrom] at h
    split at h
    · cases h
      exact hbest r rfl
    · dsimp only at h
      split at h
      · rename_i a next hitem
        split at h
        · cases h
        · have hitem : s.itemAt pos = some (a, next) := by
            split at hitem
            · exact hitem
            · cases hitem
          refine ih (step hpos hitem) ?_ h
          intro b hb
          split at hb
          · cases hb
            exact hpos
          · exact hbest b hb
      · split at h
        · cases h
          exact hpos
        · cases h
          exact hbest r rfl

/-- A pass finds no match that ends before it starts, or off a boundary. -/
theorem Program.search_stop {p : Program} {pass : Pass} {s : Stream ι} {limit pos : Nat} {r : Nat × Slots}
    (hb : s.isBoundary pos = true) (h : p.search pass s limit pos = .settled (some r)) :
    pos ≤ r.1 ∧ s.isBoundary r.1 = true := by
  rw [Program.search] at h
  split at h
  · cases h
  · exact searchFrom_stop (fun q => pos ≤ q ∧ s.isBoundary q = true)
      (fun hg hi => ⟨Nat.le_trans hg.1 (Nat.le_of_lt (Stream.lt_of_itemAt hi)), Stream.isBoundary_of_itemAt hi⟩)
      ⟨Nat.le_refl _, hb⟩ (by simp) h

theorem Program.findGroups_stop {p : Program} {s : Stream ι} {limit pos : Nat} {r : Match}
    (hb : s.isBoundary pos = true) (h : p.findGroups s limit pos = some r) :
    pos ≤ r.stop ∧ s.isBoundary r.stop = true := by
  rw [Program.findGroups] at h
  split at h
  · rename_i stop slots hs
    cases h
    exact Program.search_stop hb hs
  · cases h

/-- A match does not end before it starts, and ends at a boundary. -/
theorem Program.find_stop {p : Program} {s : Stream ι} {pos : Nat} {r : Match} (h : p.find s pos = some r) :
    pos ≤ r.stop ∧ s.isBoundary r.stop = true := by
  rw [Program.find] at h
  split at h
  · rename_i hb
    split at h
    · cases h
    · rename_i stop slots hs
      split at h
      · cases h
        exact Program.search_stop hb hs
      · exact Program.findGroups_stop hb h
    · exact Program.findGroups_stop hb h
  · cases h

/-! ## Matchers -/

/-- The way in which a group is asked for. -/
inductive Group where
  | index (n : Nat)
  | name (s : String)
  deriving DecidableEq, Repr

/-- A group as an error message names it. -/
def Group.text : Group → String
  | index n => toString n
  | name s => Text.quoted s

/-- Why a text is no pattern. -/
def malformedReason : String := "error parsing pattern 0"

/-- Why a pattern is refused whose program would be too large. -/
def oversizeReason : String := "error building NFA"

/-- The pattern that a text spells; with `utf8` set it matches whole characters only. -/
def Expr.ofString (utf8 : Bool) (source : String) : Except DefinitionError Expr :=
  match (Tree.ofString? source).bind (Tree.resolve? utf8) with
  | some e => if e.space ≤ spaceLimit then .ok e else .error (.invalidPattern source oversizeReason)
  | none => .error (.invalidPattern source malformedReason)

/-- The number of a group that a pattern has. -/
def Expr.group (e : Expr) (source : String) (g : Group) : Except DefinitionError Nat :=
  match g with
  | .index n => if n < e.groupCount then .ok n else .error (.unknownGroup source g.text)
  | .name s =>
    match e.groupNamed? s with
    | some n => .ok n
    | none => .error (.unknownGroup source g.text)

/-- The matcher of a pattern. -/
def Expr.matcher (e : Expr) (source : String) : Matcher ι :=
  let p := e.program
  ⟨source, p.find, Program.find_stop⟩

/-- Finds the groups of a pattern in order; the first that is missing counts. -/
def Expr.groups (e : Expr) (source : String) (gs : List Group) : Except DefinitionError (List Nat) :=
  gs.mapM (e.group source)

end Descent.Pattern
