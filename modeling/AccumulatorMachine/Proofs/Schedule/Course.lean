import AccumulatorMachine.Schedule

/-! Endless courses of a system of threads, and how to see that something happens in them. -/
namespace AccumulatorMachine.Schedule
variable {σ : Type}

/-- One state after the other. The system may rest, but no thread that can go on is kept waiting for
ever. -/
structure Course (threads : List (σ → Option σ)) (start : σ) where
  state : Nat → σ
  begins : state 0 = start
  acts : ∀ n, state (n + 1) = state n ∨ ∃ act ∈ threads, act (state n) = some (state (n + 1))
  fair : ∀ act ∈ threads, ∀ n, ∃ m, n ≤ m ∧
    (act (state m) = none ∨ act (state m) = some (state (m + 1)))

/-- The action of the thread whose turn it is. -/
def actInTurn (threads : List (σ → Option σ)) (n : Nat) (s : σ) : σ :=
  (threads[n % threads.length]?.bind (· s)).getD s

def inTurn (threads : List (σ → Option σ)) (start : σ) : Nat → σ
  | 0 => start
  | n + 1 => actInTurn threads n (inTurn threads start n)

/-- The threads can always take turns. -/
def Course.ofTurns (threads : List (σ → Option σ)) (start : σ) : Course threads start where
  state := inTurn threads start
  begins := rfl
  acts := by
    intro n
    change actInTurn threads n _ = _ ∨ ∃ act ∈ threads, _ = some (actInTurn threads n _)
    unfold actInTurn
    cases hact : threads[n % threads.length]? with
    | none => exact .inl rfl
    | some act =>
      cases ht : act (inTurn threads start n) with
      | none => exact .inl (by simp [ht])
      | some t => exact .inr ⟨act, List.mem_of_getElem? hact, by simp [ht]⟩
  fair := by
    intro act hmem n
    obtain ⟨i, hi, rfl⟩ := List.getElem_of_mem hmem
    refine ⟨threads.length * n + i, ?_, ?_⟩
    · have := Nat.le_mul_of_pos_left n (Nat.zero_lt_of_lt hi)
      omega
    · have hturn : (threads.length * n + i) % threads.length = i := by
        rw [Nat.mul_add_mod, Nat.mod_eq_of_lt hi]
      change _ ∨ _ = some (actInTurn threads _ _)
      cases ht : threads[i] (inTurn threads start (threads.length * n + i)) with
      | none => exact .inl rfl
      | some t => exact .inr (by simp [actInTurn, hturn, hi, ht])

namespace Course
variable {threads : List (σ → Option σ)} {start : σ} (c : Course threads start)

theorem reachable (n : Nat) : Reachable threads start (c.state n) := by
  induction n with
  | zero =>
    rw [c.begins]
    exact .refl
  | succ n ih =>
    obtain hrest | ⟨act, hmem, hact⟩ := c.acts n
    · exact hrest ▸ ih
    · exact ih.step hmem hact

theorem eventually_or_stays {P Q : σ → Prop}
    (hstep : ∀ act ∈ threads, ∀ s t, P s → act s = some t → Q t ∨ P t) {n : Nat}
    (hn : P (c.state n)) (k : Nat) :
    (∃ m, n ≤ m ∧ Q (c.state m)) ∨ P (c.state (n + k)) := by
  induction k with
  | zero => exact .inr hn
  | succ k ih =>
    obtain hq | hp := ih
    · exact .inl hq
    · obtain hrest | ⟨act, hmem, hact⟩ := c.acts (n + k)
      · exact .inr (hrest ▸ hp)
      · obtain hq | hp' := hstep act hmem _ _ hp hact
        · exact .inl ⟨n + k + 1, by omega, hq⟩
        · exact .inr hp'

/-- A thread that can go on as long as something holds, and brings about something else when it does. -/
theorem eventually_of_helper {P Q : σ → Prop} {helper : σ → Option σ} (hmem : helper ∈ threads)
    (henabled : ∀ s, P s → helper s ≠ none)
    (hhelp : ∀ s t, P s → helper s = some t → Q t)
    (hstep : ∀ act ∈ threads, ∀ s t, P s → act s = some t → Q t ∨ P t) {n : Nat}
    (hn : P (c.state n)) : ∃ m, n ≤ m ∧ Q (c.state m) := by
  obtain ⟨m, hm, hfair⟩ := c.fair helper hmem n
  obtain ⟨k, rfl⟩ := Nat.le.dest hm
  obtain hq | hp := c.eventually_or_stays hstep hn k
  · exact hq
  · obtain hnone | hact := hfair
    · exact absurd hnone (henabled _ hp)
    · exact ⟨n + k + 1, by omega, hhelp _ _ hp hact⟩

/-- Threads that bring a rank down whenever they act, and one of which can always go on. -/
theorem eventually_of_rank {P Q : σ → Prop} (rank : σ → Nat)
    (hlive : ∀ s, P s → Q s ∨ ∃ act ∈ threads, act s ≠ none)
    (hstep : ∀ act ∈ threads, ∀ s t, P s → act s = some t → Q t ∨ P t ∧ rank t < rank s) {n : Nat}
    (hn : P (c.state n)) : ∃ m, n ≤ m ∧ Q (c.state m) := by
  induction hr : rank (c.state n) using Nat.strongRecOn generalizing n with
  | ind r ih =>
    obtain hq | ⟨act, hmem, hact⟩ := hlive _ hn
    · exact ⟨n, Nat.le_refl n, hq⟩
    · have hmove : ∃ m, n ≤ m ∧ (Q (c.state m) ∨ P (c.state m) ∧ rank (c.state m) < r) := by
        -- as long as nothing has happened, the system is where it was
        refine c.eventually_of_helper (P := fun s => s = c.state n)
          (Q := fun t => Q t ∨ P t ∧ rank t < r) hmem ?_ ?_ ?_ rfl
        · rintro s rfl
          exact hact
        · rintro s t rfl ht
          exact hr ▸ hstep act hmem _ _ hn ht
        · rintro other hother s t rfl ht
          exact .inl (hr ▸ hstep other hother _ _ hn ht)
      obtain ⟨m, hm, hq | ⟨hp, hlt⟩⟩ := hmove
      · exact ⟨m, hm, hq⟩
      · obtain ⟨k, hk, hq⟩ := ih _ hlt hp rfl
        exact ⟨k, by omega, hq⟩

end Course

end AccumulatorMachine.Schedule
