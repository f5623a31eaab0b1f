/-! A cell that hands one value from a writer to a reader. A reader of an empty cell waits until a
value is there or the cell is closed; a closed cell gives nothing, not even a value it still holds. -/
namespace AccumulatorMachine

structure Mailbox (α : Type) where
  value : Option α := none
  closed : Bool := false
  deriving DecidableEq, Repr

namespace Mailbox
variable {α : Type}

/-- The last value written is the one that counts. -/
def write (v : α) (m : Mailbox α) : Mailbox α := { m with value := some v }

/-- What a reader takes and the cell it leaves; none if it has to wait. -/
def read? (m : Mailbox α) : Option (Option α × Mailbox α) :=
  if m.closed then some (none, m)
  else m.value.map fun v => (some v, { m with value := none })

def close (m : Mailbox α) : Mailbox α := { m with closed := true }

/-- Drops the value and opens the cell. -/
def reset (_ : Mailbox α) : Mailbox α := {}

def isEmpty (m : Mailbox α) : Bool := m.value.isNone

theorem read?_eq_none_iff (m : Mailbox α) : m.read? = none ↔ m.closed = false ∧ m.value = none := by
  cases m with
  | mk value closed => cases closed <;> cases value <;> simp [read?]

@[simp] theorem read?_close (m : Mailbox α) : m.close.read? = some (none, m.close) := by
  simp [close, read?]

theorem read?_write {m : Mailbox α} (v : α) (h : m.closed = false) :
    (m.write v).read? = some (some v, {}) := by
  simp [write, read?, h]

end Mailbox

end AccumulatorMachine
