import AccumulatorMachine.CommandLine.Terminal
import AccumulatorMachine.Stepper

/-! Stepping through a program at a terminal. The machine is shown before every step, which is made
when a line has been typed; the end of the typed lines stops the program. -/
namespace AccumulatorMachine

inductive DebuggerPhase where
  /-- The next line lets it step. -/
  | paused
  /-- The next line answers the program. -/
  | asking
  | ended (status : Status)
  /-- The program could not be shown. -/
  | broken
  deriving DecidableEq, Repr

structure Debugger where
  stepper : Stepper
  /-- Answers for the prompts to come. -/
  inputs : List String
  /-- The milliseconds that the program is said to have taken. -/
  elapsed : Nat := 0
  printed : List Printed := []
  phase : DebuggerPhase := .paused

namespace Debugger

def stepPrompt : String := "[enter to step]"

def print (d : Debugger) (ps : List Printed) : Debugger := { d with printed := d.printed ++ ps }

/-- Shows the machine and goes on, if it can be shown. -/
def printState (d : Debugger) (next : Debugger → Debugger) : Debugger :=
  let shown := d.print [.dump d.stepper.program d.stepper.machine.snapshot]
  if Listing.programFits d.stepper.program then next shown else { shown with phase := .broken }

def printMessage (d : Debugger) (status : Status) (text : Option String) : Debugger :=
  d.print (text.map fun text => Printed.message ⟨status, text⟩).toList

/-- Shows the machine and waits for the line that lets it step. -/
def pause (d : Debugger) : Debugger :=
  d.printState fun d => { d.print [.prompt stepPrompt] with phase := .paused }

def conclude (d : Debugger) (status : Status) : Debugger :=
  d.printState fun d =>
    { d.printMessage status (status.describe? d.elapsed) with phase := .ended status }

def proceed (d : Debugger) : Debugger :=
  match d.stepper.finished with
  | some status => d.conclude status
  | none => d.pause

/-- Nobody answers any more once the lines have ended. -/
def answer (d : Debugger) (line : Option String) : Debugger :=
  proceed { d with
    stepper := match line with
      | some text => d.stepper.deliver text
      | none => d.stepper.stop }

def takeOutput (d : Debugger) : Debugger :=
  let (text, stepper) := d.stepper.takeOutput
  { d with stepper }.printMessage .output text

def request (d : Debugger) : Debugger :=
  match d.inputs with
  | text :: inputs => { d with inputs }.answer (some text)
  | [] => { d.print [.prompt Status.inputPrompt] with phase := .asking }

def step (d : Debugger) : Debugger :=
  let (status, stepper) := d.stepper.step
  let d := { d with stepper }
  match status with
  | .output => d.takeOutput.proceed
  | .input => d.request
  | _ => d.proceed

def stop (d : Debugger) : Debugger := { d with stepper := d.stepper.stop }

/-- What comes of the next line, or of the end of the lines. -/
def feed (d : Debugger) (line : Option String) : Debugger :=
  match d.phase, line with
  | .paused, some _ => d.step
  | .paused, none => d.stop.step
  | .asking, _ => d.answer line
  | .ended _, _ | .broken, _ => d

def ofText (text : String) (inputs : List String) : Debugger :=
  pause { stepper := Stepper.ofText text, inputs }

end Debugger

end AccumulatorMachine
