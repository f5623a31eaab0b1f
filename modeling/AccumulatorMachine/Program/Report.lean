import AccumulatorMachine.Json.Value
import AccumulatorMachine.Program

/-! The refused lines of a program as JSON. -/
namespace AccumulatorMachine.Program

def problemJson : Nat × Problem → Json
  | (line, problem) =>
    .object [("line", Json.nat line), ("error", .string problem.message)]

def reportJson (p : Program) : Json := .array (p.problems.map problemJson)

def report (p : Program) : String := p.reportJson.render

end AccumulatorMachine.Program
