/-! Systems of threads. Each thread makes its next action or waits, and the threads may take turns in
any order. Every state that a particular order leads to is one of the reachable states. -/
namespace AccumulatorMachine.Schedule
variable {σ : Type}

/-- The states that some order of the actions leads to. -/
inductive Reachable (threads : List (σ → Option σ)) (start : σ) : σ → Prop where
  | refl : Reachable threads start start
  | step {s t : σ} {act : σ → Option σ} :
      Reachable threads start s → act ∈ threads → act s = some t → Reachable threads start t

/-- The action of the first thread that does not wait. -/
def first? (threads : List (σ → Option σ)) (s : σ) : Option σ := threads.findSome? (· s)

/-- Makes actions until none is possible, but at most so many. -/
def settle (act : σ → Option σ) : Nat → σ → σ
  | 0, s => s
  | n + 1, s =>
    match act s with
    | none => s
    | some t => settle act n t

/-- Makes the actions of these threads one after another, each if it is possible. -/
def follow (threads : List (σ → Option σ)) : List Nat → σ → σ
  | [], s => s
  | i :: order, s => follow threads order ((threads[i]?.bind (· s)).getD s)

theorem Reachable.invariant {threads : List (σ → Option σ)} {P : σ → Prop} {s t : σ}
    (h : Reachable threads s t) (hs : P s)
    (hstep : ∀ act ∈ threads, ∀ u v, P u → act u = some v → P v) : P t := by
  induction h with
  | refl => exact hs
  | step _ hmem hact ih => exact hstep _ hmem _ _ ih hact

theorem Reachable.of_first? {threads : List (σ → Option σ)} {start s t : σ}
    (h : Reachable threads start s) (hs : first? threads s = some t) :
    Reachable threads start t := by
  obtain ⟨act, hmem, hact⟩ := List.exists_of_findSome?_eq_some hs
  exact h.step hmem hact

theorem reachable_settle (threads : List (σ → Option σ)) (n : Nat) {start s : σ}
    (h : Reachable threads start s) : Reachable threads start (settle (first? threads) n s) := by
  induction n generalizing s with
  | zero => exact h
  | succ n ih =>
    unfold settle
    split
    · exact h
    · next hs => exact ih (h.of_first? hs)

theorem reachable_follow (threads : List (σ → Option σ)) (order : List Nat) {start s : σ}
    (h : Reachable threads start s) : Reachable threads start (follow threads order s) := by
  induction order generalizing s with
  | nil => exact h
  | cons i order ih =>
    unfold follow
    refine ih ?_
    cases hi : threads[i]? with
    | none => simpa using h
    | some act =>
      cases ht : act s with
      | none => simpa [ht] using h
      | some t => simpa [ht] using h.step (List.mem_of_getElem? hi) ht

end AccumulatorMachine.Schedule
