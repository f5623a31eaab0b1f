/-! A barrier for a fixed number of parties. Whoever arrives waits until all parties have, and then
the next generation begins. A generation can be broken, which refuses its waiters and, until a
reset, everyone who comes later. -/
namespace AccumulatorMachine

structure Barrier where
  parties : Nat
  /-- How many wait in the current generation. -/
  waiting : Nat := 0
  generation : Nat := 0
  /-- The generation that was broken last. -/
  broken : Option Nat := none
  deriving DecidableEq, Repr

/-- How a wait ends. -/
inductive Verdict where
  | passed
  | broken
  deriving DecidableEq, Repr

inductive Arrival where
  | done (verdict : Verdict)
  | blocked (generation : Nat)
  deriving DecidableEq, Repr

namespace Barrier

def brokenMessage : String := "barrier was broken before all parties arrived"

/-- A barrier is for at least one party. -/
def ofParties (n : Nat) : Barrier := { parties := max n 1 }

def isBroken (b : Barrier) : Bool := b.broken == some b.generation

/-- The first part of a wait, up to the point where the party sleeps. -/
def arrive (b : Barrier) : Arrival × Barrier :=
  if b.isBroken then (.done .broken, b)
  else if b.waiting + 1 = b.parties then
    (.done .passed, { b with waiting := 0, generation := b.generation + 1 })
  else (.blocked b.generation, { b with waiting := b.waiting + 1 })

/-- What a party finds that slept in a generation and looks again; none if it sleeps on. -/
def verdict? (b : Barrier) (generation : Nat) : Option Verdict :=
  if b.broken = some generation then some .broken
  else if b.generation = generation then none
  else some .passed

def breakNow (b : Barrier) : Barrier := { b with broken := some b.generation, waiting := 0 }

/-- Begins a generation. The old one counts as broken if somebody waits in it. -/
def reset (b : Barrier) : Barrier :=
  { b with
    broken := if 0 < b.waiting then some b.generation else b.broken
    waiting := 0
    generation := b.generation + 1 }

@[simp] theorem isBroken_breakNow (b : Barrier) : b.breakNow.isBroken = true := by
  simp [breakNow, isBroken]

theorem verdict?_breakNow (b : Barrier) : b.breakNow.verdict? b.generation = some .broken := by
  simp [breakNow, verdict?]

end Barrier

end AccumulatorMachine
