import AccumulatorMachine.CommandLine.Terminal
import AccumulatorMachine.Session

/-! The front end of a run at a terminal. It receives the messages of the run one by one, prints them
and answers the prompts, first with the inputs it was given and then with typed lines; their end
stops the run. When no message comes for a while it looks whether the run is over. -/
namespace AccumulatorMachine

inductive AttendantPhase where
  | receiving
  /-- No message has come in time. -/
  | testing
  /-- The next line answers the program. -/
  | asking
  | ended
  deriving DecidableEq, Repr

structure Attendant where
  run : Run
  /-- Answers for the prompts to come. -/
  inputs : List String
  echoPrompts : Bool
  /-- How many messages have been received. -/
  received : Nat := 0
  printed : List Printed := []
  phase : AttendantPhase := .receiving

namespace Attendant

/-- At the start of a run on a new machine. -/
def ofText (text : String) (inputs : List String) (echoPrompts : Bool) : Attendant :=
  { run := Session.accept {} (Program.ofText text) 0, inputs, echoPrompts }

/-- The text of a prompt need not be shown. -/
def showMessage (a : Attendant) (m : Message) : Attendant :=
  if m.status = .input ∧ a.echoPrompts = false then a
  else { a with printed := a.printed ++ [.message m] }

/-- Nobody answers any more once the lines have ended. -/
def answer (a : Attendant) (line : Option String) : Attendant :=
  { a with
    phase := .receiving
    run := match line with
      | some text => a.run.deliver text
      | none => a.run.stop }

def request (a : Attendant) : Attendant :=
  match a.inputs with
  | text :: inputs => { a with inputs }.answer (some text)
  | [] => { a with phase := .asking }

def receive (a : Attendant) (m : Message) : Attendant :=
  let a := { a with received := a.received + 1 }.showMessage m
  match m.status with
  | .input => a.request
  | status => if status.continues then a else { a with phase := .ended }

/-- Receives the next message; none if there is none to receive. -/
def receive? (a : Attendant) : Option Attendant :=
  match a.phase with
  | .receiving => a.run.console[a.received]?.map a.receive
  | _ => none

/-- Gives up waiting for a message that has not come. -/
def timeOut? (a : Attendant) : Option Attendant :=
  match a.phase, a.run.console[a.received]? with
  | .receiving, none => some { a with phase := .testing }
  | _, _ => none

/-- Waits again unless the run is over. -/
def test? (a : Attendant) : Option Attendant :=
  match a.phase with
  | .testing => some { a with phase := if a.run.isOver then .ended else .receiving }
  | _ => none

def feed (a : Attendant) (line : Option String) : Attendant :=
  match a.phase with
  | .asking => a.answer line
  | _ => a

def onRun (act : Run → Option Run) (a : Attendant) : Option Attendant :=
  (act a.run).map fun run => { a with run }

/-- Everybody who takes part in a run that is attended to. -/
def threads : List (Attendant → Option Attendant) :=
  [receive?, timeOut?, test?] ++ Run.threads.map onRun

/-- The order played: the run goes on as far as it can before a message is received. -/
def act? (a : Attendant) : Option Attendant :=
  match a.onRun Run.act? with
  | some a => some a
  | none => a.receive?

/-- Plays until nothing can happen before a line is typed, but at most so many actions. -/
def settle (bound : Nat) (a : Attendant) : Attendant := Schedule.settle act? bound a

/-- The report that is waited for after the last message. -/
def report? (a : Attendant) : Option Report :=
  if a.phase = .ended ∧ a.run.isOver = true then a.run.report? else none

end Attendant

end AccumulatorMachine
