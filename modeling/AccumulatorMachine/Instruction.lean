import AccumulatorMachine.Opcode
import AccumulatorMachine.Text.Blank
import AccumulatorMachine.Text.Decimal

/-! Instructions and the program lines they are read from. A line is blank, or an opcode and an
integer. The opcode stays text, so a line with an unknown one can still be read and shown. -/
namespace AccumulatorMachine

inductive Instruction where
  /-- The step over a blank line. -/
  | blank
  | written (opcode : String) (operand : Int32)
  deriving DecidableEq, Repr

/-- Why a line is no instruction. -/
inductive LineError where
  | malformed (tokens : Nat)
  | invalidOperand (text : String)
  deriving DecidableEq, Repr

def LineError.message : LineError → String
  | .malformed n => s!"expected an opcode and one operand, found {Text.decimal n} token(s)"
  | .invalidOperand t => s!"operand '{t}' is not an integer"

namespace Instruction

/-- An opcode is kept in lower case. -/
def ofParts (opcode : String) (operand : Int32) : Instruction :=
  .written (Text.lowercase opcode) operand

def opcodeText : Instruction → String
  | .blank => Opcode.hop.mnemonic
  | .written o _ => o

def operand : Instruction → Int32
  | .blank => 0
  | .written _ n => n

/-- The operation to execute. The one that steps over a blank line cannot be written. -/
def opcode? : Instruction → Option Opcode
  | .blank => some .hop
  | .written o _ => (Opcode.ofMnemonic? o).filter (· ≠ .hop)

/-- Opcode and operand as a listing shows them. -/
def cells : Instruction → List String
  | .blank => []
  | .written o n => [Text.uppercase o, Text.decimal32 n]

def display (i : Instruction) : String := " ".intercalate i.cells

/-- Tabs are dropped wherever they stand; every other blank character separates tokens. -/
def tokens (line : String) : List (List Char) :=
  Text.words (line.toList.filter (· ≠ '\t'))

def ofLine (line : String) : Except LineError Instruction :=
  match tokens line with
  | [] => .ok .blank
  | [opcode, operand] =>
    match Text.readInt32? operand with
    | some n => .ok (ofParts (String.ofList opcode) n)
    | none => .error (.invalidOperand (String.ofList operand))
  | ts => .error (.malformed ts.length)

@[simp] theorem opcode?_blank : opcode? .blank = some .hop := rfl

theorem opcode?_written_ne_hop (o : String) (n : Int32) : opcode? (.written o n) ≠ some .hop := by
  simp [opcode?, Option.filter_eq_some_iff]

end Instruction

end AccumulatorMachine
