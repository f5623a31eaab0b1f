import AccumulatorMachine.Instruction
import AccumulatorMachine.Mailbox
import AccumulatorMachine.Memory
import AccumulatorMachine.Status

/-! The machine. One mailbox carries printed values out and delivered values in. Executing a line is
one action, except that an input instruction first looks for a value, asks for one if there is
none, and later takes it from the mailbox, where it may have to wait. -/
namespace AccumulatorMachine

structure Machine where
  /-- Index of the next line, from zero. Jumps can lead it anywhere. -/
  pc : Int := 0
  memory : Option Memory := none
  mailbox : Mailbox String := {}
  interrupted : Bool := false
  /-- The user has been asked for a value that no input instruction has taken yet. -/
  awaiting : Bool := false
  deriving DecidableEq, Repr

/-- What an observer is shown of a machine. -/
structure Snapshot where
  pc : Int
  memory : Option (List Int32)
  interrupted : Bool
  awaiting : Bool
  deriving DecidableEq, Repr

def Snapshot.accumulator? (s : Snapshot) : Option Int32 := s.memory.bind List.head?

/-- How far an instruction gets before it needs the mailbox. -/
inductive Visit where
  | done (status : Status) (machine : Machine)
  /-- An input instruction goes on to take a value for the cell. -/
  | taking (address : Int32)

namespace Machine

def snapshot (m : Machine) : Snapshot :=
  ⟨m.pc, m.memory.map Memory.toList, m.interrupted, m.awaiting⟩

def hasPending (m : Machine) : Bool := !m.mailbox.isEmpty

/-- Memory before `set` holds no accumulator, which jumps read as zero. -/
def accumulator (m : Machine) : Int32 := (m.memory.map (·.accumulator)).getD 0

def advance (m : Machine) : Machine := { m with pc := m.pc + 1 }

def withMemory (m : Machine) (memory : Memory) : Machine := { m with memory := some memory }

/-! ### Instructions -/

/-- Continues with the value of a cell, if the cell exists. -/
def withCell (m : Machine) (address : Int32) (next : Memory → Int32 → Visit) : Visit :=
  match m.memory with
  | none => .done (.failed .memoryAddress) m
  | some memory =>
    match memory.get? address with
    | none => .done (.failed .memoryAddress) m
    | some value => next memory value

def visitSet (m : Machine) (size : Int32) : Visit :=
  if 0 ≤ size.toInt ∧ size.toInt ≤ Memory.maxSize then
    .done .ok (m.withMemory (.zeros size.toInt.toNat)).advance
  else .done (.failed .memorySize) m

def visitArithmetic (m : Machine) (op : Arithmetic) (address : Int32) : Visit :=
  m.withCell address fun memory value =>
    match op.eval? memory.accumulator value with
    | some result => .done .ok (m.withMemory { memory with accumulator := result }).advance
    | none => .done (.failed .divisionByZero) m

def visitLoad (m : Machine) (address : Int32) : Visit :=
  m.withCell address fun memory value =>
    .done .ok (m.withMemory { memory with accumulator := value }).advance

def visitConstant (m : Machine) (value : Int32) : Visit :=
  match m.memory with
  | none => .done (.failed .memoryAddress) m
  | some memory => .done .ok (m.withMemory { memory with accumulator := value }).advance

def visitStore (m : Machine) (address : Int32) : Visit :=
  match m.memory.bind fun memory => memory.set? address memory.accumulator with
  | none => .done (.failed .memoryAddress) m
  | some memory => .done .ok (m.withMemory memory).advance

/-- Asks for a value once; with one at hand, or on a later visit, goes on to take it. -/
def visitInput (m : Machine) (address : Int32) : Visit :=
  m.withCell address fun _ _ =>
    if m.mailbox.isEmpty && !m.awaiting then .done .input { m with awaiting := true }
    else .taking address

def visitOutput (m : Machine) (address : Int32) : Visit :=
  m.withCell address fun _ value =>
    .done .output { m with mailbox := m.mailbox.write (Text.decimal32 value) }.advance

/-- Lines are numbered from one in a jump. -/
def visitJump (m : Machine) (condition : Condition) (line : Int32) : Visit :=
  if condition.holds m.accumulator then .done .ok { m with pc := line.toInt - 1 }
  else .done .ok m.advance

def visit (m : Machine) : Opcode → Int32 → Visit
  | .hop, _ => .done .ok m.advance
  | .set, n => m.visitSet n
  | .arith op, n => m.visitArithmetic op n
  | .load, n => m.visitLoad n
  | .constant, n => m.visitConstant n
  | .store, n => m.visitStore n
  | .input, n => m.visitInput n
  | .output, n => m.visitOutput n
  | .jump c, n => m.visitJump c n
  | .halt, _ => .done .succeeded m

def visitLine (m : Machine) (line : String) : Visit :=
  match Instruction.ofLine line with
  | .error _ => .done (.failed .unreadableLine) m
  | .ok i =>
    match i.opcode? with
    | none => .done (.failed .unknownCommand) m
    | some op => m.visit op i.operand

/-- Delivered text counts as a number whatever blanks are around it. -/
def readInput? (text : String) : Option Int32 := Text.readInt32? (Text.trim text.toList)

/-- Puts an input into the cell of the memory there is by now. -/
def storeInput (m : Machine) (address : Int32) (input : Option String) : Status × Machine :=
  match input.bind readInput? with
  | none => (.failed .invalidInput, m)
  | some value =>
    match m.memory.bind (·.set? address value) with
    | none => (.failed .memoryAddress, m)
    | some memory => (.ok, { m.withMemory memory with awaiting := false }.advance)

/-- Takes an input for a cell; none while there is nothing to take. -/
def takeInput? (m : Machine) (address : Int32) : Option (Status × Machine) :=
  m.mailbox.read?.map fun (input, mailbox) => { m with mailbox }.storeInput address input

/-- The end of a visit, on the machine as it is when nobody else has acted; none if it waits. -/
def finish? (m : Machine) : Visit → Option (Status × Machine)
  | .done status next => some (status, next)
  | .taking address => m.takeInput? address

def execute? (m : Machine) (op : Opcode) (operand : Int32) : Option (Status × Machine) :=
  m.finish? (m.visit op operand)

def run? (m : Machine) (line : String) : Option (Status × Machine) := m.finish? (m.visitLine line)

/-! ### What others do to a machine -/

def deliver (m : Machine) (text : String) : Machine := { m with mailbox := m.mailbox.write text }

/-- The value of the last output instruction; none if it has to be waited for. -/
def requestOutput? (m : Machine) : Option (Option String × Machine) :=
  m.mailbox.read?.map fun (text, mailbox) => (text, { m with mailbox })

def markInterrupted (m : Machine) : Machine := { m with interrupted := true }

def closeMailbox (m : Machine) : Machine := { m with mailbox := m.mailbox.close }

/-- Marks the machine, then releases whoever waits for its mailbox. -/
def interrupt (m : Machine) : Machine := m.markInterrupted.closeMailbox

def clearRegisters (m : Machine) : Machine := { m with pc := 0, memory := none }

def clearMailbox (m : Machine) : Machine := { m with mailbox := m.mailbox.reset }

def clearAwaiting (m : Machine) : Machine := { m with awaiting := false }

def clearInterrupted (m : Machine) : Machine := { m with interrupted := false }

/-- The four parts of a reset, in their order. -/
def reset (m : Machine) : Machine :=
  m.clearRegisters.clearMailbox.clearAwaiting.clearInterrupted

@[simp] theorem reset_eq (m : Machine) : m.reset = {} := rfl

theorem takeInput?_eq_none_iff (m : Machine) (a : Int32) :
    m.takeInput? a = none ↔ m.mailbox.closed = false ∧ m.mailbox.value = none := by
  simp [takeInput?, Mailbox.read?_eq_none_iff]

theorem requestOutput?_eq_none_iff (m : Machine) :
    m.requestOutput? = none ↔ m.mailbox.closed = false ∧ m.mailbox.value = none := by
  simp [requestOutput?, Mailbox.read?_eq_none_iff]

end Machine

end AccumulatorMachine
