/-! What the arguments of the command line ask for. Options and names come in any order; after a lone
`--` every argument is a name. -/
namespace AccumulatorMachine

inductive Action where
  | run | check | debug
  deriving DecidableEq, Repr

structure Invocation where
  action : Action
  /-- The path of the program. -/
  file : String
  inputs? : Option (List String) := none
  /-- The path of the settings. -/
  config? : Option String := none
  dump : Bool := false
  deriving DecidableEq, Repr

/-- Why arguments are not acted on. -/
inductive Refusal where
  | misuse
  | helpWanted
  deriving DecidableEq, Repr

/-- One argument by its form. -/
inductive Argument where
  | separator
  | long (name : List Char) (attached? : Option (List Char))
  | short (letters : List Char)
  | plain (text : List Char)
  deriving DecidableEq, Repr

/-- The options that take a value. -/
inductive ValueOption where
  | input | config
  deriving DecidableEq, Repr

/-- The arguments read so far. -/
structure Arguments where
  action? : Option Action := none
  file? : Option String := none
  inputs? : Option (List String) := none
  config? : Option String := none
  dump : Bool := false
  /-- The option whose value comes next. -/
  open? : Option ValueOption := none
  /-- Only names are left. -/
  namesOnly : Bool := false
  deriving DecidableEq, Repr

def Action.ofName? : List Char → Option Action
  | ['r', 'u', 'n'] => some .run
  | ['c', 'h', 'e', 'c', 'k'] => some .check
  | ['d', 'e', 'b', 'u', 'g'] => some .debug
  | _ => none

namespace Argument

/-- A value can be attached to the name of a long option by an equals sign. -/
def ofLong (text : List Char) : Argument :=
  let name := text.takeWhile (· != '=')
  match text.drop name.length with
  | [] => .long name none
  | _ :: value => .long name (some value)

def ofText : List Char → Argument
  | ['-', '-'] => .separator
  | '-' :: '-' :: text => ofLong text
  | ['-'] => .plain ['-']
  | '-' :: letters => .short letters
  | text => .plain text

end Argument

namespace Arguments

/-- The first name is the action, the second one the file. -/
def addName (a : Arguments) (text : List Char) : Except Refusal Arguments :=
  match a.action?, a.file? with
  | none, _ =>
    match Action.ofName? text with
    | some action => .ok { a with action? := some action }
    | none => .error .misuse
  | some _, none => .ok { a with file? := some (String.ofList text) }
  | some _, some _ => .error .misuse

/-- Inputs are separated by commas. -/
def splitInputs (text : List Char) : List String :=
  (text.splitOnP (· == ',')).map String.ofList

def setValue (a : Arguments) (option : ValueOption) (text : List Char) : Arguments :=
  match option with
  | .input => { a with inputs? := some (splitInputs text), open? := none }
  | .config => { a with config? := some (String.ofList text), open? := none }

def hasValue (a : Arguments) : ValueOption → Bool
  | .input => a.inputs?.isSome
  | .config => a.config?.isSome

/-- No option may come twice. -/
def addValueOption (a : Arguments) (option : ValueOption) (attached? : Option (List Char)) :
    Except Refusal Arguments :=
  if a.hasValue option then .error .misuse
  else
    match attached? with
    | some text => .ok (a.setValue option text)
    | none => .ok { a with open? := some option }

def addFlag (a : Arguments) : Except Refusal Arguments :=
  if a.dump then .error .misuse else .ok { a with dump := true }

def addLong (a : Arguments) (name : String) (attached? : Option (List Char)) :
    Except Refusal Arguments :=
  match name, attached? with
  | "input", _ => a.addValueOption .input attached?
  | "config", _ => a.addValueOption .config attached?
  | "dump", none => a.addFlag
  | "help", none => .error .helpWanted
  | _, _ => .error .misuse

/-- Of the short options there is only the one for help. -/
def shortRefusal : List Char → Refusal
  | 'h' :: _ => .helpWanted
  | _ => .misuse

def add (a : Arguments) (text : List Char) : Except Refusal Arguments :=
  if a.namesOnly then a.addName text
  else
    match a.open?, Argument.ofText text with
    | some option, .plain value => .ok (a.setValue option value)
    | some _, _ => .error .misuse
    | none, .plain name => a.addName name
    | none, .separator => .ok { a with namesOnly := true }
    | none, .long name attached? => a.addLong (String.ofList name) attached?
    | none, .short letters => .error (shortRefusal letters)

/-- Both names have to be there, and the value of every option. -/
def finish (a : Arguments) : Except Refusal Invocation :=
  match a.action?, a.file?, a.open? with
  | some action, some file, none =>
    .ok { action, file, inputs? := a.inputs?, config? := a.config?, dump := a.dump }
  | _, _, _ => .error .misuse

end Arguments

namespace Invocation

def ofArguments (arguments : List String) : Except Refusal Invocation :=
  (arguments.foldlM (fun (a : Arguments) text => a.add text.toList) {}).bind Arguments.finish

end Invocation

end AccumulatorMachine
