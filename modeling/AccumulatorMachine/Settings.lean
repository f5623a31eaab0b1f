import AccumulatorMachine.Json.Reader

/-! Settings of the command line, as they are written in JSON. -/
namespace AccumulatorMachine

structure Settings where
  /-- Answers for the first prompts. -/
  inputs : List String := []
  /-- Show the machine at the end of a run. -/
  dumpState : Bool := false
  logFilter? : Option String := none
  echoPrompts : Bool := true
  deriving DecidableEq, Repr

namespace Settings

def defaultLogFilter : String := "warn"

def logFilter (s : Settings) : String := s.logFilter?.getD defaultLogFilter

def asString? : Json → Option String
  | .string text => some text
  | _ => none

def set? (s : Settings) : String × Json → Option Settings
  | ("inputs", .array items) => (items.mapM asString?).map fun inputs => { s with inputs }
  | ("dump_state", .bool dumpState) => some { s with dumpState }
  | ("log_filter", .null) => some { s with logFilter? := none }
  | ("log_filter", .string text) => some { s with logFilter? := some text }
  | ("echo_prompts", .bool echoPrompts) => some { s with echoPrompts }
  | _ => none

/-- No key may come twice; a missing one leaves the default. -/
def ofMembers? (members : List (String × Json)) : Option Settings :=
  if (members.map Prod.fst).Nodup then members.foldlM set? {} else none

def keys : List String := ["inputs", "dump_state", "log_filter", "echo_prompts"]

/-- Settings are an object, or an array of the values in the order of the keys. -/
def ofJson? : Json → Option Settings
  | .object members => ofMembers? members
  | .array items => if items.length ≤ keys.length then ofMembers? (keys.zip items) else none
  | _ => none

def read? (text : String) : Option Settings := (Json.read? text).bind ofJson?

def logFilterJson : Option String → Json
  | none => .null
  | some text => .string text

def toJson (s : Settings) : Json :=
  .object [("inputs", .array (s.inputs.map .string)), ("dump_state", .bool s.dumpState),
    ("log_filter", logFilterJson s.logFilter?), ("echo_prompts", .bool s.echoPrompts)]

end Settings

end AccumulatorMachine
