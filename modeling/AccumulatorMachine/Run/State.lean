import AccumulatorMachine.Completion
import AccumulatorMachine.Handoff
import AccumulatorMachine.Machine
import AccumulatorMachine.Program

/-! The state of a run. A runner executes the program and hands over every status but the silent one; a
printer turns what it receives into messages; a finisher observes the end. -/
namespace AccumulatorMachine

/-- Something shown to the user, with the status that caused it. -/
structure Message where
  status : Status
  text : String
  deriving DecidableEq, Repr

/-- How a run ended, with the machine as it was before its reset. -/
structure Report where
  status : Status
  snapshot : Snapshot
  deriving DecidableEq, Repr

/-- The parts of a machine that a reset clears one after another. -/
inductive ResetPart where
  | registers | mailbox | awaiting | interrupted
  deriving DecidableEq, Repr

namespace ResetPart

def clear : ResetPart → Machine → Machine
  | .registers => Machine.clearRegisters
  | .mailbox => Machine.clearMailbox
  | .awaiting => Machine.clearAwaiting
  | .interrupted => Machine.clearInterrupted

def next? : ResetPart → Option ResetPart
  | .registers => some .mailbox
  | .mailbox => some .awaiting
  | .awaiting => some .interrupted
  | .interrupted => none

end ResetPart

inductive RunnerPhase where
  /-- Looks whether the machine is interrupted. -/
  | testing
  /-- Looks up the next line. -/
  | fetching
  /-- Is about to execute a line. -/
  | executing (line : String)
  /-- Takes an input for a cell. -/
  | taking (address : Int32)
  /-- Looks whether an interrupt explains an error. -/
  | judging (status : Status)
  | reporting (status : Status)
  /-- Notes the state of the machine. -/
  | noting (status : Status)
  | clearing (report : Report) (part : ResetPart)
  | signalling (report : Report)
  | asleep (report : Report) (generation : Nat)
  /-- Gives up its end of the hand-off. -/
  | leaving (report : Report)
  | finished (report : Report)
  /-- Somebody else hands statuses over, and only the calls begun there go on. -/
  | absent
  deriving DecidableEq, Repr

inductive PrinterPhase where
  | receiving
  /-- Finds the text for a status. -/
  | rendering (status : Status)
  | appending (status : Status) (text : Option String)
  | releasing (status : Status)
  | leaving (status : Status)
  | finished (status : Status)
  /-- Somebody else receives the statuses, and only the calls begun there go on. -/
  | absent
  deriving DecidableEq, Repr

inductive FinisherPhase where
  | observing
  | asleep (generation : Nat)
  /-- Frees the session for the next run. -/
  | freeing (verdict : Verdict)
  | calling (verdict : Verdict)
  | finished (verdict : Verdict)
  deriving DecidableEq, Repr

/-- What the runs of a session have in common. -/
structure Shared where
  machine : Machine := {}
  console : List Message := []
  /-- A run has been accepted and not been freed. -/
  active : Bool := false
  /-- How often a run has called back at its end. -/
  callbacks : Nat := 0
  deriving DecidableEq, Repr

/-- The threads of one run and what they meet at. -/
structure Threads where
  program : Program
  /-- The milliseconds that the run is said to have taken. -/
  elapsed : Nat
  statuses : Handoff Status := { receiver := .receiving }
  completion : Completion := .new
  runner : RunnerPhase := .testing
  printer : PrinterPhase := .receiving
  finisher : FinisherPhase := .observing
  deriving DecidableEq, Repr

structure Run extends Shared, Threads
  deriving DecidableEq, Repr

namespace Run

/-- The line that the program counter is at. -/
def line? (r : Run) : Option String := r.program.lineAt? r.machine.pc

/-- The runner goes round in its loop, because the program counter is outside the program and
nobody has stopped the run. -/
def stalls (r : Run) : Bool :=
  (r.runner == .testing || r.runner == .fetching) && !r.machine.interrupted && r.line?.isNone

def report? (r : Run) : Option Report :=
  match r.runner with
  | .finished report => some report
  | _ => none

/-- All three threads have ended. -/
def isOver (r : Run) : Bool :=
  match r.runner, r.printer, r.finisher with
  | .finished _, .finished _, .finished _ => true
  | _, _, _ => false

def deliver (r : Run) (text : String) : Run := { r with machine := r.machine.deliver text }

def stop (r : Run) : Run := { r with machine := r.machine.interrupt }

end Run

end AccumulatorMachine
