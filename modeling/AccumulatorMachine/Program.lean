import AccumulatorMachine.Instruction
import AccumulatorMachine.Text.Lines

/-! Programs, and the lines of them that the machine would refuse. -/
namespace AccumulatorMachine

abbrev Program := List String

namespace Program

def ofText (text : String) : Program := (Text.lines text.toList).map String.ofList

/-- The text of a program, with a line feed between lines. -/
def toText (p : Program) : String := String.ofList (Text.joinLines (p.map String.toList))

def lineAt? (p : Program) : Int → Option String
  | .ofNat n => p[n]?
  | .negSucc _ => none

theorem lineAt?_eq_some_iff {p : Program} {pc : Int} {line : String} :
    p.lineAt? pc = some line ↔ ∃ i : Nat, pc = i ∧ p[i]? = some line := by
  cases pc with
  | ofNat n =>
    refine ⟨fun h => ⟨n, rfl, h⟩, ?_⟩
    rintro ⟨i, hi, h⟩
    obtain rfl : n = i := Int.ofNat.inj hi
    exact h
  | negSucc n => simp [lineAt?]

end Program

/-- Why the machine refuses a line whatever its state. -/
inductive Problem where
  | unreadable (cause : LineError)
  | unknownOpcode (opcode : String)
  /-- The name of the step over a blank line is not for programs to use. -/
  | reservedOpcode
  deriving DecidableEq, Repr

namespace Problem

def message : Problem → String
  | .unreadable cause => cause.message
  | .unknownOpcode opcode => s!"unknown instruction '{opcode}'"
  | .reservedOpcode => "'hop' is reserved for blank lines"

/-- The message with the number of the line in front. -/
def located (line : Nat) (p : Problem) : String := s!"line {Text.decimal line}: {p.message}"

def ofInstruction? (i : Instruction) : Option Problem :=
  match i.opcode?, Opcode.ofMnemonic? i.opcodeText with
  | some _, _ => none
  | none, some _ => some .reservedOpcode
  | none, none => some (.unknownOpcode i.opcodeText)

def ofLine? (line : String) : Option Problem :=
  match Instruction.ofLine line with
  | .error cause => some (.unreadable cause)
  | .ok i => ofInstruction? i

end Problem

namespace Program

/-- The refused lines with their numbers, which start at one. -/
def problems (p : Program) : List (Nat × Problem) :=
  (p.zipIdx 1).filterMap fun (line, number) => (Problem.ofLine? line).map (number, ·)

end Program

end AccumulatorMachine
