import AccumulatorMachine.Machine
import AccumulatorMachine.Program

/-! An interpreter of programs without mailbox and flags. An input instruction reads the next of a
list of inputs, and an output instruction writes to the list of what has happened. -/
namespace AccumulatorMachine

/-- What a user is told before the end. -/
inductive Event where
  | asked
  | printed (text : String)
  deriving DecidableEq, Repr

structure Interpreter where
  program : Program
  inputs : List String
  pc : Int := 0
  memory : Option Memory := none
  events : List Event := []
  ended : Option Status := none
  deriving DecidableEq, Repr

namespace Interpreter

def ofText (text : String) (inputs : List String) : Interpreter :=
  { program := Program.ofText text, inputs }

def endWith (s : Interpreter) (status : Status) : Interpreter := { s with ended := some status }

def fail (s : Interpreter) (cause : Failure) : Interpreter := s.endWith (.failed cause)

def tell (s : Interpreter) (event : Event) : Interpreter :=
  { s with events := s.events ++ [event] }

def advance (s : Interpreter) : Interpreter := { s with pc := s.pc + 1 }

def withMemory (s : Interpreter) (memory : Memory) : Interpreter :=
  { s with memory := some memory }

def accumulator (s : Interpreter) : Int32 := (s.memory.map (·.accumulator)).getD 0

/-- Continues with the value of a cell, if the cell exists. -/
def withCell (s : Interpreter) (address : Int32) (next : Memory → Int32 → Interpreter) :
    Interpreter :=
  match s.memory with
  | none => s.fail .memoryAddress
  | some memory =>
    match memory.get? address with
    | none => s.fail .memoryAddress
    | some value => next memory value

/-- Puts a number into a cell, if the cell exists. -/
def store (s : Interpreter) (memory : Memory) (address value : Int32) : Interpreter :=
  match memory.set? address value with
  | none => s.fail .memoryAddress
  | some memory => (s.withMemory memory).advance

/-- Asks for an input and reads it. Without one the user gives up. -/
def readInput (s : Interpreter) (memory : Memory) (address : Int32) : Interpreter :=
  match s.inputs with
  | [] => (s.tell .asked).endWith .stopped
  | text :: inputs =>
    match Machine.readInput? text with
    | none => { s.tell .asked with inputs }.fail .invalidInput
    | some value => { s.tell .asked with inputs }.store memory address value

def execute (s : Interpreter) : Opcode → Int32 → Interpreter
  | .hop, _ => s.advance
  | .set, n =>
    if 0 ≤ n.toInt ∧ n.toInt ≤ Memory.maxSize then (s.withMemory (.zeros n.toInt.toNat)).advance
    else s.fail .memorySize
  | .arith op, n => s.withCell n fun memory value =>
    match op.eval? memory.accumulator value with
    | some result => (s.withMemory { memory with accumulator := result }).advance
    | none => s.fail .divisionByZero
  | .load, n => s.withCell n fun memory value =>
    (s.withMemory { memory with accumulator := value }).advance
  | .constant, n =>
    match s.memory with
    | none => s.fail .memoryAddress
    | some memory => (s.withMemory { memory with accumulator := n }).advance
  | .store, n =>
    match s.memory with
    | none => s.fail .memoryAddress
    | some memory => s.store memory n memory.accumulator
  | .input, n => s.withCell n fun memory _ => s.readInput memory n
  | .output, n => s.withCell n fun _ value => (s.tell (.printed (Text.decimal32 value))).advance
  | .jump condition, n =>
    if condition.holds s.accumulator then { s with pc := n.toInt - 1 }
    else s.advance
  | .halt, _ => s.endWith .succeeded

def executeLine (s : Interpreter) (line : String) : Interpreter :=
  match Instruction.ofLine line with
  | .error _ => s.fail .unreadableLine
  | .ok i =>
    match i.opcode? with
    | none => s.fail .unknownCommand
    | some op => s.execute op i.operand

/-- Nothing happens after the end, nor with the program counter outside the program. -/
def step (s : Interpreter) : Interpreter :=
  match s.ended, s.program.lineAt? s.pc with
  | none, some line => s.executeLine line
  | _, _ => s

def run : Nat → Interpreter → Interpreter
  | 0, s => s
  | n + 1, s => (run n s).step

end Interpreter

end AccumulatorMachine
