import AccumulatorMachine.CommandLine

/-! The command line on the files and the terminal of the system. -/
namespace AccumulatorMachine.CommandLine

def readFile (path : String) : IO (Except String String) := do
  try
    let content ← IO.FS.readBinFile path
    return (FileTree.decode path content).mapError FileError.message
  catch e => return .error s!"failed to access {path}: {e}"

def systemJob (arguments : List String) : IO Job := do
  match Invocation.ofArguments arguments with
  | .error refusal => return .done (.ofRefusal refusal)
  | .ok i =>
    let config? ← i.config?.mapM fun path => readFile path
    return .start i config? ((← readFile i.file).map Document.normalize)

/-- The next typed line; none at the end of the input. -/
def readLine : IO (Option String) := do
  let line ← (← IO.getStdin).getLine
  return if line.isEmpty then none else some (Terminal.typedLine line.toList)

def write (ps : List Printed) : IO Unit := do
  let output ← IO.getStdout
  output.putStr (Terminal.output ps)
  output.flush

/-- How many actions a run makes before its messages are shown. -/
def chunk : Nat := 100000

/-- Works on a command that has begun at a certain time and has shown so much. -/
partial def work (began shown : Nat) (job : Job) : IO Outcome := do
  let job := (job.withElapsed ((← IO.monoMsNow) - began)).settle chunk
  match job.outcome? with
  | some outcome =>
    write (outcome.printed.drop shown)
    return outcome
  | none =>
    write (job.printed.drop shown)
    if job.wantsLine then work began job.printed.length (job.feed (← readLine))
    else
      IO.sleep 1
      work began job.printed.length job

end AccumulatorMachine.CommandLine

open AccumulatorMachine CommandLine

def main (arguments : List String) : IO UInt32 := do
  try
    let outcome ← work (← IO.monoMsNow) 0 (← systemJob arguments)
    if let some complaint := outcome.complaint? then IO.eprintln complaint
    return outcome.code.toUInt32
  catch e =>
    IO.eprintln s!"{e}"
    return 1
