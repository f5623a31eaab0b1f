import AccumulatorMachine.Run.Play

/-! A run as its machine and its console show it. The runner waits while the printer works, so what
the two do to the machine and the console comes in one order, whatever the order of the actions in
between. -/
namespace AccumulatorMachine

/-- How far a run has come. -/
inductive Stage where
  /-- No status is being handed over. -/
  | busy (phase : RunnerPhase)
  /-- The text of a status has yet to be found. -/
  | handing (status : Status)
  | rendered (status : Status) (text : Option String)
  /-- The message of a status is out, and the runner has yet to come back. -/
  | shown (status : Status)
  deriving DecidableEq, Repr

namespace Stage

/-- What follows the execution of a line. -/
def afterLine : Status → Stage
  | .ok => .busy .testing
  | .failed cause => .busy (.judging (.failed cause))
  | status => .handing status

def afterReport (status : Status) : Stage :=
  .busy (if status.continues then .testing else .noting status)

def afterClear (report : Report) (part : ResetPart) : Stage :=
  .busy (match part.next? with
    | some next => .clearing report next
    | none => .signalling report)

end Stage

/-- The machine, the console and how far the run has come. -/
structure Scene where
  machine : Machine
  console : List Message
  stage : Stage
  deriving DecidableEq, Repr

def Run.stage (r : Run) : Stage :=
  match r.runner with
  | .reporting status =>
    match r.statuses.sender, r.printer, r.statuses.receiver with
    | .offering _, _, _ => .handing status
    | .returned _, _, _ => .shown status
    | _, .receiving, .holding _ => .handing status
    | _, .rendering _, _ => .handing status
    | _, .appending _ text, _ => .rendered status text
    | _, _, _ => .shown status
  | phase => .busy phase

theorem Run.stage_of_runner {r : Run} {phase : RunnerPhase} (h : r.runner = phase)
    (hp : ∀ status, phase ≠ .reporting status) : r.stage = .busy phase := by
  cases phase with
  | reporting status => exact absurd rfl (hp status)
  | _ => simp only [stage, h]

theorem Run.runner_of_report? {r : Run} {report : Report} (h : r.report? = some report) :
    r.runner = .finished report := by
  unfold report? at h
  split at h
  · next hrunner => rw [hrunner, Option.some.inj h]
  · cases h

def Run.scene (r : Run) : Scene := ⟨r.machine, r.console, r.stage⟩

namespace Scene

/-- The runner gives the signal and leaves. -/
inductive Retires : RunnerPhase → RunnerPhase → Prop
  | sleep (report : Report) (g : Nat) : Retires (.signalling report) (.asleep report g)
  | leave (report : Report) : Retires (.signalling report) (.leaving report)
  | wake (report : Report) (g : Nat) : Retires (.asleep report g) (.leaving report)
  | finish (report : Report) : Retires (.leaving report) (.finished report)

/-- What can be seen to happen in a run of a program. -/
inductive Move (program : Program) (elapsed : Nat) : Scene → Scene → Prop
  | stop {m c} (h : m.interrupted = true) :
      Move program elapsed ⟨m, c, .busy .testing⟩ ⟨m, c, .handing .stopped⟩
  | proceed {m c} (h : m.interrupted = false) :
      Move program elapsed ⟨m, c, .busy .testing⟩ ⟨m, c, .busy .fetching⟩
  | stall {m c} (h : program.lineAt? m.pc = none) :
      Move program elapsed ⟨m, c, .busy .fetching⟩ ⟨m, c, .busy .testing⟩
  | fetch {m c line} (h : program.lineAt? m.pc = some line) :
      Move program elapsed ⟨m, c, .busy .fetching⟩ ⟨m, c, .busy (.executing line)⟩
  | execute {m c line status m'} (h : m.visitLine line = .done status m') :
      Move program elapsed ⟨m, c, .busy (.executing line)⟩ ⟨m', c, .afterLine status⟩
  | reach {m c line address} (h : m.visitLine line = .taking address) :
      Move program elapsed ⟨m, c, .busy (.executing line)⟩ ⟨m, c, .busy (.taking address)⟩
  | take {m c address status m'} (h : m.takeInput? address = some (status, m')) :
      Move program elapsed ⟨m, c, .busy (.taking address)⟩ ⟨m', c, .afterLine status⟩
  | judge {m c cause} :
      Move program elapsed ⟨m, c, .busy (.judging (.failed cause))⟩
        ⟨m, c, .handing (if m.interrupted then .stopped else .failed cause)⟩
  | print {m c text m'} (h : m.requestOutput? = some (text, m')) :
      Move program elapsed ⟨m, c, .handing .output⟩ ⟨m', c, .rendered .output text⟩
  | describe {m c status} (h : status ≠ .output) :
      Move program elapsed ⟨m, c, .handing status⟩
        ⟨m, c, .rendered status (status.describe? elapsed)⟩
  | append {m c status text} :
      Move program elapsed ⟨m, c, .rendered status text⟩
        ⟨m, c ++ (text.map (Message.mk status)).toList, .shown status⟩
  | resume {m c status} :
      Move program elapsed ⟨m, c, .shown status⟩ ⟨m, c, .afterReport status⟩
  | note {m c status} :
      Move program elapsed ⟨m, c, .busy (.noting status)⟩
        ⟨m, c, .busy (.clearing ⟨status, m.snapshot⟩ .registers)⟩
  | clear {m c report part} :
      Move program elapsed ⟨m, c, .busy (.clearing report part)⟩
        ⟨part.clear m, c, .afterClear report part⟩
  | retire {m c p q} (h : Retires p q) :
      Move program elapsed ⟨m, c, .busy p⟩ ⟨m, c, .busy q⟩

end Scene

end AccumulatorMachine
