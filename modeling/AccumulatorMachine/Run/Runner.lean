import AccumulatorMachine.Run.State

/-! The runner of a run, action by action. It executes lines until a status ends the run, notes the
state of the machine, resets it, gives the signal and leaves. -/
namespace AccumulatorMachine.Run

def reportStatus (r : Run) (status : Status) : Run :=
  { r with statuses := r.statuses.offer status, runner := .reporting status }

/-- What follows the execution of a line. The silent status is not handed over. -/
def afterLine (r : Run) (status : Status) : Run :=
  match status with
  | .ok => { r with runner := .testing }
  | .failed _ => { r with runner := .judging status }
  | _ => r.reportStatus status

def executeLine (r : Run) (line : String) : Run :=
  match r.machine.visitLine line with
  | .done status machine => { r with machine }.afterLine status
  | .taking address => { r with runner := .taking address }

/-- A status that did not reach the other side ends the run. -/
def afterReport (r : Run) (status : Status) (delivered : Bool) : Run :=
  let status := if delivered then status else .stopped
  { r with
    statuses := { r.statuses with sender := .idle }
    runner := if status.continues then .testing else .noting status }

def clearPart (r : Run) (report : Report) (part : ResetPart) : Run :=
  { r with
    machine := part.clear r.machine
    runner := match part.next? with
      | some next => .clearing report next
      | none => .signalling report }

/-- The runner gives up its end of the hand-off. -/
def leaveRunner (r : Run) (report : Report) : Run :=
  { r with statuses := r.statuses.dropSender, runner := .leaving report }

def signal (r : Run) (report : Report) : Run :=
  match r.completion.signal with
  | (.done _, completion) => { r with completion }.leaveRunner report
  | (.blocked generation, completion) => { r with completion, runner := .asleep report generation }

/-- The next action of the runner; none if it waits or has ended. -/
def runnerStep? (r : Run) : Option Run :=
  match r.runner with
  | .testing =>
    if r.machine.interrupted then some (r.reportStatus .stopped)
    else some { r with runner := .fetching }
  | .fetching =>
    match r.line? with
    | none => some { r with runner := .testing }
    | some line => some { r with runner := .executing line }
  | .executing line => some (r.executeLine line)
  | .taking address =>
    (r.machine.takeInput? address).map fun (status, machine) => { r with machine }.afterLine status
  | .judging status =>
    some (r.reportStatus (if r.machine.interrupted then .stopped else status))
  | .reporting status =>
    match r.statuses.sender with
    | .returned delivered => some (r.afterReport status delivered)
    | _ => r.statuses.senderStep?.map fun statuses => { r with statuses }
  | .noting status => some { r with runner := .clearing ⟨status, r.machine.snapshot⟩ .registers }
  | .clearing report part => some (r.clearPart report part)
  | .signalling report => some (r.signal report)
  | .asleep report generation =>
    (r.completion.verdict? generation).map fun _ => r.leaveRunner report
  | .leaving report =>
    match r.statuses.sender with
    | .gone => some { r with runner := .finished report }
    | _ => r.statuses.senderStep?.map fun statuses => { r with statuses }
  | .absent => r.statuses.senderStep?.map fun statuses => { r with statuses }
  | .finished _ => none

end AccumulatorMachine.Run
