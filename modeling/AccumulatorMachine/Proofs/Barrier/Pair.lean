import AccumulatorMachine.Barrier

/-! Barriers for two parties that nobody has broken. -/
namespace AccumulatorMachine.Barrier

/-- A barrier for two with so many parties waiting in a generation. -/
def pair (waiting generation : Nat) : Barrier := { parties := 2, waiting, generation }

@[simp] theorem waiting_pair (n g : Nat) : (pair n g).waiting = n := rfl

@[simp] theorem ofParties_two : ofParties 2 = pair 0 0 := rfl

@[simp] theorem arrive_pair_zero (g : Nat) : (pair 0 g).arrive = (.blocked g, pair 1 g) := by
  simp [pair, arrive, isBroken]

/-- The second party releases the first and goes on itself. -/
@[simp] theorem arrive_pair_one (g : Nat) :
    (pair 1 g).arrive = (.done .passed, pair 0 (g + 1)) := by
  simp [pair, arrive, isBroken]

/-- A reset refuses nobody as long as nobody waits. -/
@[simp] theorem reset_pair_zero (g : Nat) : (pair 0 g).reset = pair 0 (g + 1) := by
  simp [pair, reset]

@[simp] theorem verdict?_pair (n g h : Nat) :
    (pair n g).verdict? h = if g = h then none else some .passed := rfl

theorem verdict?_pair_of_lt (n : Nat) {g h : Nat} (hlt : h < g) :
    (pair n g).verdict? h = some .passed := by
  have hne : g ≠ h := by omega
  simp [hne]

end AccumulatorMachine.Barrier
