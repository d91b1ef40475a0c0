import Mathlib.Data.List.Infix

/-!
# Starts of lists and texts

What starts two lists in a row is a start of the first one, or goes on into the second (`prefix_append_cases`), where it
has at least one item if it is no start of the first (`prefix_or_longer`). Texts that are starts of each other are the
same (`eq_of_prefixes`).
-/

namespace Descent

variable {α : Type} {u v w : List α}

theorem prefix_append_cases (h : u <+: v ++ w) : u <+: v ∨ ∃ u', u = v ++ u' ∧ u' <+: w := by
  rcases List.prefix_or_prefix_of_prefix h (List.prefix_append v w) with h' | ⟨u', rfl⟩
  · exact .inl h'
  · exact .inr ⟨u', rfl, (List.prefix_append_right_inj v).1 h⟩

theorem prefix_or_longer (h : u <+: v ++ w) : u <+: v ∨ ∃ a more, u = v ++ a :: more ∧ a :: more <+: w := by
  rcases prefix_append_cases h with hshort | ⟨u', rfl, hover⟩
  · exact .inl hshort
  · cases u' with
    | nil =>
      rw [List.append_nil]
      exact .inl List.prefix_rfl
    | cons a more => exact .inr ⟨a, more, rfl, hover⟩

theorem eq_of_prefixes {t u : String} (h : t.toList <+: u.toList) (h' : u.toList <+: t.toList) : t = u :=
  String.toList_inj.1 (h.eq_of_length_le h'.length_le)

end Descent
