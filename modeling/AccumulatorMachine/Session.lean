import AccumulatorMachine.Run.Play

/-! A session runs one program at a time on its machine. -/
namespace AccumulatorMachine

namespace Session

def busyMessage : String := "a program is already running"

/-- A run at its start, on a reset machine. -/
def accept (s : Shared) (program : Program) (elapsed : Nat) : Run :=
  ⟨{ s with active := true, machine := s.machine.reset }, { program, elapsed }⟩

/-- Begins a run; none while a run is active. -/
def start? (s : Shared) (program : Program) (elapsed : Nat) : Option Run :=
  if s.active then none else some (accept s program elapsed)

end Session

end AccumulatorMachine
