import AccumulatorMachine.Text.Case

/-! The operations of the machine, and the mnemonics that name them. -/
namespace AccumulatorMachine

/-- Operations on the accumulator and one memory cell. -/
inductive Arithmetic where
  | add | sub | mul | div
  deriving DecidableEq, Repr

/-- Conditions on the accumulator under which a jump is taken. -/
inductive Condition where
  | always | zero | nonzero | negative | nonpositive | positive | nonnegative
  deriving DecidableEq, Repr

inductive Opcode where
  | hop
  | set
  | arith (op : Arithmetic)
  | load
  | constant
  | store
  | input
  | output
  | jump (condition : Condition)
  | halt
  deriving DecidableEq, Repr

/-- Sums, differences and products wrap to 32 bits; a quotient is truncated, and there is none by
zero. -/
def Arithmetic.eval? : Arithmetic → Int32 → Int32 → Option Int32
  | .add, a, b => some (a + b)
  | .sub, a, b => some (a - b)
  | .mul, a, b => some (a * b)
  | .div, a, b => if b = 0 then none else some (a / b)

def Condition.holds : Condition → Int32 → Bool
  | .always, _ => true
  | .zero, a => a == 0
  | .nonzero, a => a != 0
  | .negative, a => a < 0
  | .nonpositive, a => a ≤ 0
  | .positive, a => 0 < a
  | .nonnegative, a => 0 ≤ a

namespace Opcode

def all : List Opcode :=
  [.hop, .set, .arith .add, .arith .sub, .arith .mul, .arith .div, .load, .constant, .store, .input,
    .output, .jump .always, .jump .zero, .jump .nonzero, .jump .negative, .jump .nonpositive,
    .jump .positive, .jump .nonnegative, .halt]

def mnemonic : Opcode → String
  | .hop => "hop"
  | .set => "set"
  | .arith .add => "add"
  | .arith .sub => "sub"
  | .arith .mul => "mul"
  | .arith .div => "div"
  | .load => "lda"
  | .constant => "ldk"
  | .store => "sta"
  | .input => "inp"
  | .output => "out"
  | .jump .always => "jmp"
  | .jump .zero => "jez"
  | .jump .nonzero => "jne"
  | .jump .negative => "jlz"
  | .jump .nonpositive => "jle"
  | .jump .positive => "jgz"
  | .jump .nonnegative => "jge"
  | .halt => "hlt"

/-- The mnemonic as it is displayed. -/
def display (o : Opcode) : String := Text.uppercase o.mnemonic

/-- Mnemonics are recognised in either case of their letters. -/
def ofMnemonic? (s : String) : Option Opcode :=
  all.find? fun o => Text.equalsIgnoringAsciiCase o.mnemonic s

/-- What is said of a text that is no mnemonic. -/
def unknownMessage : String := "Unknown instruction"

theorem mem_all (o : Opcode) : o ∈ all := by
  cases o with
  | arith op => cases op <;> decide
  | jump c => cases c <;> decide
  | _ => decide

end Opcode

end AccumulatorMachine
