/-! The memory of a machine: the accumulator, which no program addresses, and cells numbered from
one. -/
namespace AccumulatorMachine

structure Memory where
  accumulator : Int32 := 0
  cells : List Int32 := []
  deriving DecidableEq, Repr

namespace Memory

/-- The most cells a program can ask for. -/
def maxSize : Nat := 100

def zeros (size : Nat) : Memory := { cells := List.replicate size 0 }

/-- The accumulator followed by the cells. -/
def toList (m : Memory) : List Int32 := m.accumulator :: m.cells

/-- Cell numbers start at one. -/
def hasCell (m : Memory) (address : Int32) : Bool :=
  1 ≤ address.toInt && address.toInt ≤ m.cells.length

def index (address : Int32) : Nat := address.toInt.toNat - 1

def get? (m : Memory) (address : Int32) : Option Int32 :=
  if m.hasCell address then m.cells[index address]? else none

def set? (m : Memory) (address value : Int32) : Option Memory :=
  if m.hasCell address then some { m with cells := m.cells.set (index address) value } else none

theorem index_lt_length {m : Memory} {a : Int32} (h : m.hasCell a = true) :
    index a < m.cells.length := by
  simp only [hasCell, Bool.and_eq_true, decide_eq_true_eq] at h
  unfold index
  omega

theorem get?_isSome (m : Memory) (a : Int32) : (m.get? a).isSome = m.hasCell a := by
  unfold get?
  split
  · next h => simp [index_lt_length h, h]
  · next h => simpa using h

theorem set?_isSome (m : Memory) (a v : Int32) : (m.set? a v).isSome = m.hasCell a := by
  unfold set?
  split
  · next h => simp [h]
  · next h => simpa using h

end Memory

end AccumulatorMachine
