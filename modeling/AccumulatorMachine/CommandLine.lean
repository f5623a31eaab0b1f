import AccumulatorMachine.CommandLine.Attendant
import AccumulatorMachine.CommandLine.Debugger
import AccumulatorMachine.CommandLine.Invocation
import AccumulatorMachine.Document
import AccumulatorMachine.LogFilter
import AccumulatorMachine.Settings

/-! The command line: a program file is checked, run or stepped through, as the arguments say. -/
namespace AccumulatorMachine

/-- How a command ends. -/
structure Outcome where
  code : Nat
  printed : List Printed := []
  /-- What is said beside the output. -/
  complaint? : Option String := none

/-- A command at work. -/
inductive Job where
  | done (outcome : Outcome)
  | running (attendant : Attendant) (dump : Bool)
  | debugging (debugger : Debugger)

namespace Outcome

def usage : String := "usage: ram [--input VALUES] [--config FILE] [--dump] run|check|debug FILE"

def ofRefusal : Refusal → Outcome
  | .misuse => { code := 2, complaint? := some usage }
  | .helpWanted => { code := 0, printed := [.line usage] }

def failure (complaint : String) : Outcome := { code := 1, complaint? := some complaint }

/-- The end of a command that broke off in the middle of what it did. -/
def broken (printed : List Printed) (complaint : String) : Outcome :=
  { code := 101, printed, complaint? := some complaint }

def tooWide : String := "a column is too wide"

def codeOf (succeeded : Bool) : Nat := if succeeded then 0 else 1

def ofStatus (status : Status) (printed : List Printed) : Outcome :=
  { code := codeOf (status == .succeeded), printed }

def checkLine (path : String) : Nat × Problem → Printed
  | (line, problem) => .line s!"{path}: {problem.located line}"

def check (path : String) (program : Program) : Outcome :=
  match program.problems with
  | [] => { code := 0, printed := [.line s!"{path}: ok"] }
  | problems => { code := 1, printed := problems.map (checkLine path) }

/-- A report can be followed by the state it is about. -/
def ofReport (program : Program) (dump : Bool) (printed : List Printed) (r : Report) : Outcome :=
  if !dump then ofStatus r.status printed
  else
    let printed := printed ++ [.dump program r.snapshot]
    if Listing.programFits program then ofStatus r.status printed else broken printed tooWide

def output (o : Outcome) : String := Terminal.output o.printed

end Outcome

namespace Settings

def invalidMessage : String := "invalid configuration"

/-- What the arguments say counts, then what the file says. -/
def override (s : Settings) (i : Invocation) : Settings :=
  { s with inputs := i.inputs?.getD s.inputs, dumpState := s.dumpState || i.dump }

def ofInvocation (i : Invocation) (config? : Option (Except String String)) :
    Except String Settings :=
  match config? with
  | none => .ok (override {} i)
  | some (.error complaint) => .error complaint
  | some (.ok text) =>
    match read? text with
    | some s => .ok (s.override i)
    | none => .error invalidMessage

end Settings

namespace Job

/-- Acts on the text of a program. -/
def onProgram (i : Invocation) (s : Settings) (text : String) : Job :=
  match i.action with
  | .check => .done (.check i.file (.ofText text))
  | .run => .running (.ofText text s.inputs s.echoPrompts) s.dumpState
  | .debug => .debugging (.ofText text s.inputs)

def tornFilter : String := "the log filter is cut inside a character"

/-- Acts on settings. A log filter that is refused gives way to the default one. -/
def onSettings (i : Invocation) (s : Settings) (program : Except String String) : Job :=
  match LogFilter.read s.logFilter, program with
  | .error .torn, _ => .done (.broken [] tornFilter)
  | _, .error complaint => .done (.failure complaint)
  | _, .ok text => onProgram i s text

/-- Begins a command, given the texts of the two files or what kept them from being read. -/
def start (i : Invocation) (config? : Option (Except String String))
    (program : Except String String) : Job :=
  match Settings.ofInvocation i config? with
  | .error complaint => .done (.failure complaint)
  | .ok s => onSettings i s program

def settle (bound : Nat) : Job → Job
  | .running attendant dump => .running (attendant.settle bound) dump
  | job => job

/-- The next typed line, or the end of the lines. -/
def feed (line : Option String) : Job → Job
  | .running attendant dump => .running (attendant.feed line) dump
  | .debugging debugger => .debugging (debugger.feed line)
  | .done outcome => .done outcome

/-- Nothing happens before the next line is typed. -/
def wantsLine : Job → Bool
  | .running attendant _ => attendant.phase == .asking
  | .debugging _ => true
  | .done _ => false

/-- The time that the program is said to have taken from now on. -/
def withElapsed (milliseconds : Nat) : Job → Job
  | .running attendant dump =>
    .running { attendant with run := { attendant.run with elapsed := milliseconds } } dump
  | .debugging debugger => .debugging { debugger with elapsed := milliseconds }
  | .done outcome => .done outcome

/-- What has been printed so far. -/
def printed : Job → List Printed
  | .running attendant _ => attendant.printed
  | .debugging debugger => debugger.printed
  | .done outcome => outcome.printed

def outcome? : Job → Option Outcome
  | .done outcome => some outcome
  | .running attendant dump =>
    attendant.report?.map (.ofReport attendant.run.program dump attendant.printed)
  | .debugging debugger =>
    match debugger.phase with
    | .ended status => some (.ofStatus status debugger.printed)
    | .broken => some (.broken debugger.printed Outcome.tooWide)
    | .paused | .asking => none

/-- What is typed: some lines, and then their end as often as it is asked for. -/
def conversation (lines : List String) : List (Option String) := lines.map some ++ [none, none]

def converse (bound : Nat) (job : Job) (lines : List String) : Job :=
  (conversation lines).foldl (fun job line => (job.feed line).settle bound) (job.settle bound)

end Job

namespace CommandLine

/-- The command in a directory of files, where paths start. -/
def job (files : FileTree) (arguments : List String) : Job :=
  match Invocation.ofArguments arguments with
  | .error refusal => .done (.ofRefusal refusal)
  | .ok i =>
    .start i (i.config?.map fun path => (files.readText path).mapError FileError.message)
      ((Document.loadFile files i.file).mapError FileError.message)

/-- How the command ends; none if a run has not ended within so many actions after some line. -/
def outcome? (bound : Nat) (files : FileTree) (arguments : List String) (input : String) :
    Option Outcome :=
  ((job files arguments).converse bound (Terminal.typedLines input.toList)).outcome?

end CommandLine

end AccumulatorMachine
