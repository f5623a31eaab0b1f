import AccumulatorMachine.Run.State

/-! The printer of a run, action by action. It receives a status, finds its text, shows it and releases
the runner, until a status ends the run. -/
namespace AccumulatorMachine.Run

/-- A printed value comes from the mailbox, every other text from the status. -/
def render? (r : Run) (status : Status) : Option (Option String × Machine) :=
  match status with
  | .output => r.machine.requestOutput?
  | _ => some (status.describe? r.elapsed, r.machine)

def append (r : Run) (status : Status) (text : Option String) : Run :=
  { r with
    console := r.console ++ (text.map fun text => (⟨status, text⟩ : Message)).toList
    statuses := r.statuses.release
    printer := .releasing status }

/-- The printer gives up its end of the hand-off. -/
def leavePrinter (r : Run) (status : Status) : Run :=
  { r with statuses := r.statuses.dropReceiver, printer := .leaving status }

def afterRelease (r : Run) (status : Status) (verdict : Verdict) : Run :=
  if verdict == .passed && status.continues then
    { r with statuses := r.statuses.receive, printer := .receiving }
  else r.leavePrinter status

/-- The next action of the printer; none if it waits or has ended. -/
def printerStep? (r : Run) : Option Run :=
  match r.printer with
  | .receiving =>
    match r.statuses.receiver with
    | .holding status => some { r with printer := .rendering status }
    | .ended => some (r.leavePrinter .stopped)
    | _ => r.statuses.receiverStep?.map fun statuses => { r with statuses }
  | .rendering status =>
    (r.render? status).map fun (text, machine) =>
      { r with machine, printer := .appending status text }
  | .appending status text => some (r.append status text)
  | .releasing status =>
    match r.statuses.receiver with
    | .released verdict => some (r.afterRelease status verdict)
    | _ => r.statuses.receiverStep?.map fun statuses => { r with statuses }
  | .leaving status =>
    match r.statuses.receiver with
    | .gone => some { r with printer := .finished status }
    | _ => r.statuses.receiverStep?.map fun statuses => { r with statuses }
  | .absent => r.statuses.receiverStep?.map fun statuses => { r with statuses }
  | .finished _ => none

end AccumulatorMachine.Run
