import AccumulatorMachine.Proofs.Interpreter
import AccumulatorMachine.Session

/-! A run together with the front end that attends to it. The front end reads the messages in their
order, answers every question with the next of a list of inputs and stops the run when there is none.
It also looks where the program counter is, and stops the run once that has left the program. -/
namespace AccumulatorMachine

def Message.event? (m : Message) : Option Event :=
  match m.status with
  | .input => some .asked
  | .output => some (.printed m.text)
  | _ => none

structure FrontEnd where
  inputs : List String
  /-- How many messages have been read. -/
  read : Nat := 0
  /-- Stops that have marked the machine and have yet to close its mailbox. -/
  closing : Nat := 0
  /-- The program counter has been seen outside the program. -/
  left : Bool := false
  deriving DecidableEq, Repr

structure Hosted where
  run : Run
  front : FrontEnd
  deriving DecidableEq, Repr

namespace Hosted

/-- A run on a session with a new console. -/
def start (shared : Shared) (text : String) (inputs : List String) (elapsed : Nat) : Hosted :=
  ⟨Session.accept { shared with console := [] } (Program.ofText text) elapsed, { inputs }⟩

def events (h : Hosted) : List Event := h.run.console.filterMap Message.event?

def onMachine (h : Hosted) (f : Machine → Machine) : Hosted :=
  { h with run := { h.run with machine := f h.run.machine } }

/-- The first part of a stop. -/
def beginStop (h : Hosted) : Hosted :=
  { h.onMachine Machine.markInterrupted with
    front := { h.front with closing := h.front.closing + 1 } }

/-- Delivers the next input or begins to stop the run. -/
def answer (h : Hosted) : Hosted :=
  match h.front.inputs with
  | [] => h.beginStop
  | text :: inputs => { h.onMachine (·.deliver text) with front := { h.front with inputs } }

/-- Reads a message. -/
def respond? (h : Hosted) : Option Hosted :=
  h.run.console[h.front.read]?.map fun message =>
    let h := { h with front := { h.front with read := h.front.read + 1 } }
    if message.status = .input then h.answer else h

/-- Begins to stop the run if the program counter is outside the program. A front end that is not
hasty first waits until the printer has fetched the last value. -/
def watch? (hasty : Bool) (h : Hosted) : Option Hosted :=
  if h.front.left = false ∧ h.run.line? = none ∧
      (hasty = true ∨ h.run.machine.mailbox.isEmpty = true) then
    some { h.beginStop with front := { h.beginStop.front with left := true } }
  else none

/-- The second part of a stop. -/
def close? (h : Hosted) : Option Hosted :=
  if 0 < h.front.closing then
    some { h.onMachine Machine.closeMailbox with
      front := { h.front with closing := h.front.closing - 1 } }
  else none

def onRun (act : Run → Option Run) (h : Hosted) : Option Hosted :=
  (act h.run).map fun run => { h with run }

def threads (hasty : Bool) : List (Hosted → Option Hosted) :=
  [watch? hasty, close?, respond?] ++ Run.threads.map onRun

end Hosted

end AccumulatorMachine
