import AccumulatorMachine.Run.Finisher
import AccumulatorMachine.Run.Printer
import AccumulatorMachine.Run.Runner
import AccumulatorMachine.Schedule

/-! Playing a run through in one order of its threads, with commands to the machine that fall due when
the runner comes to a certain line. -/
namespace AccumulatorMachine

/-- What others ask of a machine while it runs. -/
inductive Command where
  | deliver (text : String)
  | interrupt
  deriving DecidableEq, Repr

def Command.apply : Command → Machine → Machine
  | .deliver text => fun m => m.deliver text
  | .interrupt => Machine.interrupt

/-- A command that falls due just before the execution of the line with this number in the order of
execution. -/
structure Hook where
  line : Nat
  command : Command
  deriving DecidableEq, Repr

namespace Run

/-- The threads of a run. -/
def threads : List (Run → Option Run) := [runnerStep?, printerStep?, finisherStep?]

theorem mem_threads {act : Run → Option Run} :
    act ∈ threads ↔ act = runnerStep? ∨ act = printerStep? ∨ act = finisherStep? := by
  simp [threads]

/-- The order played: the runner goes on until it waits or stalls, then the others. -/
def act? (r : Run) : Option Run :=
  if r.stalls then Schedule.first? [printerStep?, finisherStep?] r
  else Schedule.first? threads r

end Run

structure Play where
  run : Run
  hooks : List Hook := []
  /-- How many lines the runner has come to. -/
  lines : Nat := 0

namespace Play

def onMachine (f : Machine → Machine) (p : Play) : Play :=
  { p with run := { p.run with machine := f p.run.machine } }

/-- Begins a call at the hand-off from outside. -/
def onStatuses (f : Handoff Status → Handoff Status) (p : Play) : Play :=
  { p with run := { p.run with statuses := f p.run.statuses } }

/-- Counts one more line and makes the commands that are due. -/
def countLine (p : Play) : Play :=
  let lines := p.lines + 1
  let due := p.hooks.filter (·.line == lines)
  { p with lines }.onMachine fun m => due.foldl (fun m (h : Hook) => h.command.apply m) m

/-- One action of the run. -/
def act? (p : Play) : Option Play :=
  p.run.act?.map fun run =>
    match p.run.runner, run.runner with
    | .fetching, .executing _ => { p with run }.countLine
    | _, _ => { p with run }

/-- Plays until every thread waits, stalls or has ended, but for at most so many actions. -/
def settle (bound : Nat) (p : Play) : Play := Schedule.settle act? bound p

/-- Executes a line ahead of the run; none if it would have to wait. -/
def runLine? (p : Play) (line : String) : Option (Status × Play) :=
  let p := p.countLine
  (p.run.machine.run? line).map fun (status, machine) =>
    (status, { p with run := { p.run with machine } })

end Play

end AccumulatorMachine
