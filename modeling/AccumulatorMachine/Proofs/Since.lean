import Mathlib.Data.List.Basic

/-! What was the last thing to happen that matters. -/
namespace AccumulatorMachine

variable {α : Type} {p q : α → Prop} {history : List α} {e : α}

/-- Something has happened for which `p` holds, and since then only things for which `q` holds. -/
def Since (p q : α → Prop) (history : List α) : Prop :=
  ∃ before e after, history = before ++ e :: after ∧ p e ∧ ∀ e' ∈ after, q e'

theorem not_since_nil : ¬ Since p q [] := by
  rintro ⟨before, e, after, heq, -⟩
  exact List.append_ne_nil_of_right_ne_nil before (List.cons_ne_nil e after) heq.symm

theorem since_concat : Since p q (history ++ [e]) ↔ p e ∨ q e ∧ Since p q history := by
  constructor
  · rintro ⟨before, first, after, heq, hfirst, hafter⟩
    rcases after.eq_nil_or_concat with rfl | ⟨after, last, rfl⟩
    · obtain ⟨-, hlast⟩ := List.append_inj' heq rfl
      obtain rfl := List.singleton_inj.mp hlast
      exact .inl hfirst
    · rw [List.concat_eq_append, ← List.cons_append, ← List.append_assoc] at heq
      obtain ⟨hhistory, hlast⟩ := List.append_inj' heq rfl
      obtain rfl := List.singleton_inj.mp hlast
      rw [List.concat_eq_append] at hafter
      refine .inr ⟨hafter e (List.mem_append_right after (List.mem_singleton_self e)), ?_⟩
      refine ⟨before, first, after, hhistory, hfirst, fun e' he' => ?_⟩
      exact hafter e' (List.mem_append_left _ he')
  · rintro (he | ⟨he, before, first, after, rfl, hfirst, hafter⟩)
    · exact ⟨history, e, [], rfl, he, fun _ hmem => absurd hmem List.not_mem_nil⟩
    · refine ⟨before, first, after ++ [e], by simp, hfirst, fun e' he' => ?_⟩
      rcases List.mem_append.mp he' with hmem | hmem
      · exact hafter e' hmem
      · obtain rfl := List.mem_singleton.mp hmem
        exact he

end AccumulatorMachine
