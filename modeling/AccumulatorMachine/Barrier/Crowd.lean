import AccumulatorMachine.Barrier

/-! A barrier together with the waits that sleep in it, each of which returns as soon as it can. -/
namespace AccumulatorMachine.Barrier

/-- A wait that has returned. -/
structure Return where
  id : Nat
  verdict : Verdict
  deriving DecidableEq, Repr

structure Sleeper where
  id : Nat
  generation : Nat
  deriving DecidableEq, Repr

structure Crowd where
  barrier : Barrier
  sleepers : List Sleeper := []
  deriving DecidableEq, Repr

namespace Crowd

def ofParties (n : Nat) : Crowd := { barrier := .ofParties n }

def Sleeper.return? (b : Barrier) (s : Sleeper) : Option Return :=
  (b.verdict? s.generation).map (⟨s.id, ·⟩)

/-- Lets everyone look again whom the barrier no longer holds. -/
def wake (c : Crowd) : List Return × Crowd :=
  (c.sleepers.filterMap (Sleeper.return? c.barrier),
    { c with sleepers := c.sleepers.filter fun s => (c.barrier.verdict? s.generation).isNone })

def wait (id : Nat) (c : Crowd) : List Return × Crowd :=
  match c.barrier.arrive with
  | (.done verdict, barrier) =>
    let (returned, c) := { c with barrier }.wake
    (returned ++ [⟨id, verdict⟩], c)
  | (.blocked generation, barrier) =>
    ([], { barrier, sleepers := c.sleepers ++ [⟨id, generation⟩] })

def breakNow (c : Crowd) : List Return × Crowd := { c with barrier := c.barrier.breakNow }.wake

def reset (c : Crowd) : List Return × Crowd := { c with barrier := c.barrier.reset }.wake

end Crowd

end AccumulatorMachine.Barrier
