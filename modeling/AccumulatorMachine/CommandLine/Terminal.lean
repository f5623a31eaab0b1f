import AccumulatorMachine.Listing
import AccumulatorMachine.Run.State

/-! What the command line shows, and the lines that are typed. -/
namespace AccumulatorMachine

inductive Printed where
  | line (text : String)
  | message (message : Message)
  /-- A program at a point of its execution, as far as it can be shown. -/
  | dump (program : Program) (snapshot : Snapshot)
  /-- A request for a line, which is typed behind it. -/
  | prompt (text : String)
  deriving DecidableEq, Repr

namespace Printed

def text : Printed → String
  | .line text => text ++ "\n"
  | .message m => m.text ++ "\n"
  | .dump program snapshot => String.join ((Listing.dump program snapshot).map (· ++ "\n"))
  | .prompt text => text ++ " "

end Printed

namespace Terminal

def output (ps : List Printed) : String := String.join (ps.map Printed.text)

/-- The marks of the end of a line are no part of what was typed. -/
def typedLine (text : List Char) : String :=
  String.ofList (text.reverse.dropWhile fun c => c == '\r' || c == '\n').reverse

/-- The lines of an input. What follows the last line feed is one too, unless it is empty. -/
def typedLines (text : List Char) : List String :=
  let pieces := text.splitOnP (· == '\n')
  let lines := if pieces.getLast? = some [] then pieces.dropLast else pieces
  lines.map typedLine

end Terminal

end AccumulatorMachine
