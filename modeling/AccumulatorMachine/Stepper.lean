import AccumulatorMachine.Machine
import AccumulatorMachine.Program

/-! Execution of a program one line at a time, on behalf of a caller who also answers the machine. A
step that would have to wait for a value reports the wait instead. -/
namespace AccumulatorMachine

structure Stepper where
  program : Program
  machine : Machine := {}
  /-- The value of the last output instruction, until it is taken. -/
  printed : Option String := none
  finished : Option Status := none

namespace Stepper

def ofText (text : String) : Stepper := { program := Program.ofText text }

def deliver (s : Stepper) (text : String) : Stepper := { s with machine := s.machine.deliver text }

def stop (s : Stepper) : Stepper := { s with machine := s.machine.interrupt }

def takeOutput (s : Stepper) : Option String × Stepper := (s.printed, { s with printed := none })

def finish (s : Stepper) (status : Status) : Status × Stepper :=
  (status, { s with finished := some status })

/-- What a status means for the steps that follow. -/
def settle (s : Stepper) (status : Status) : Option (Status × Stepper) :=
  match status with
  | .ok | .input => some (status, s)
  | .output => s.machine.requestOutput?.map fun (text, machine) =>
    (status, { s with machine, printed := text })
  | _ => some (s.finish status)

/-- Executes a line; none if the machine would have to wait. -/
def execute? (s : Stepper) (line : String) : Option (Status × Stepper) :=
  (s.machine.run? line).bind fun (status, machine) => { s with machine }.settle status

/-- One step; none if the machine would have to wait. A program counter outside the program is no
error: nothing is executed. -/
def step? (s : Stepper) : Option (Status × Stepper) :=
  match s.finished with
  | some status => some (status, s)
  | none =>
    if s.machine.interrupted then some (s.finish .stopped)
    else if s.machine.awaiting && !s.machine.hasPending then some (.input, s)
    else
      match s.program.lineAt? s.machine.pc with
      | none => some (.ok, s)
      | some line => s.execute? line

/-- A step that would wait, which no use of a stepper leads to, changes nothing. -/
def step (s : Stepper) : Status × Stepper := s.step?.getD (.input, s)

/-- Steps until something happens, but at most so many times. -/
def stepUntilEvent : Nat → Stepper → Status × Stepper
  | 0, s => (.ok, s)
  | limit + 1, s =>
    match s.step with
    | (.ok, s) => stepUntilEvent limit s
    | event => event

end Stepper

end AccumulatorMachine
