import Descent.Event

/-!
# Recorded runs

`Yields x Q`: whatever events are there before, the recorded run `x` adds some behind them, and what it comes back with
meets `Q` together with those it adds. There is one rule for each way of making runs: `Yields.pure`, `Yields.bind`,
`Yields.note`, `Yields.giveUp`.
-/

namespace Descent

variable {α β : Type}

instance : LawfulMonad Recorded := inferInstanceAs (LawfulMonad (StateT (Array Event) Option))

/-- What a recorded run comes back with, together with the events that it adds, meets `Q`. -/
def Yields (x : Recorded α) (Q : α → List Event → Prop) : Prop :=
  ∀ before a after, x before = some (a, after) → ∃ new, after.toList = before.toList ++ new ∧ Q a new

namespace Yields

variable {x : Recorded α} {f : α → Recorded β} {P Q : α → List Event → Prop} {R : β → List Event → Prop}

theorem mono (h : Yields x P) (hPQ : ∀ a new, P a new → Q a new) : Yields x Q := by
  intro before a after hx
  obtain ⟨new, happ, hP⟩ := h before a after hx
  exact ⟨new, happ, hPQ a new hP⟩

theorem pure {a : α} (h : Q a []) : Yields (pure a) Q := by
  intro before b after hx
  obtain ⟨rfl, rfl⟩ := Prod.mk.inj (Option.some.inj hx)
  exact ⟨[], (List.append_nil _).symm, h⟩

theorem giveUp : Yields (giveUp : Recorded α) Q := fun _ _ _ hx => nomatch hx

theorem note {e : Event} {f : Unit → Recorded α} (h : Yields (f ()) fun a more => Q a (e :: more)) :
    Yields (note e >>= f) Q := by
  intro before a after hx
  obtain ⟨more, happ, hQ⟩ := h (before.push e) a after hx
  exact ⟨e :: more, by rw [happ, Array.toList_push, List.append_assoc, List.singleton_append], hQ⟩

theorem bind (hx : Yields x P) (hf : ∀ a new, P a new → Yields (f a) fun b more => R b (new ++ more)) :
    Yields (x >>= f) R := by
  intro before b after hrun
  obtain ⟨⟨a, middle⟩, hfirst, hsecond⟩ := Option.bind_eq_some_iff.1 hrun
  obtain ⟨new, happ, hP⟩ := hx before a middle hfirst
  obtain ⟨more, happ', hR⟩ := hf a new hP middle b after hsecond
  exact ⟨new ++ more, by rw [happ', happ, List.append_assoc], hR⟩

end Yields

end Descent
