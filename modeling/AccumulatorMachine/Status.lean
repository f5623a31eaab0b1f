import AccumulatorMachine.Text.Decimal

/-! What comes of executing a line, and the text that tells a user of it. -/
namespace AccumulatorMachine

/-- The ways in which a line can fail. -/
inductive Failure where
  | memorySize
  | memoryAddress
  | unknownCommand
  | unreadableLine
  | divisionByZero
  | invalidInput
  deriving DecidableEq, Repr

inductive Status where
  | ok
  /-- A value to print is in the mailbox. -/
  | output
  /-- The program wants a value that nobody has delivered yet. -/
  | input
  | failed (cause : Failure)
  | succeeded
  /-- The run was stopped from outside. -/
  | stopped
  deriving DecidableEq, Repr

namespace Status

def all : List Status :=
  [.ok, .output, .input, .failed .memorySize, .failed .memoryAddress, .failed .unknownCommand,
    .failed .unreadableLine, .failed .divisionByZero, .failed .invalidInput, .succeeded, .stopped]

/-- A run goes on after these. -/
def continues : Status → Bool
  | .ok | .output | .input => true
  | _ => false

def isError : Status → Bool
  | .failed _ => true
  | _ => false

def name : Status → String
  | .ok => "OK"
  | .output => "OUTPUT"
  | .input => "INPUT"
  | .failed .memorySize => "SET_ERROR"
  | .failed .memoryAddress => "MEMORY_ADDRESS_ERROR"
  | .failed .unknownCommand => "COMMAND_ERROR"
  | .failed .unreadableLine => "DECODE_ERROR"
  | .failed .divisionByZero => "DIVISION_BY_ZERO_ERROR"
  | .failed .invalidInput => "INPUT_ERROR"
  | .succeeded => "FINISH_SUCCESS"
  | .stopped => "FINISH_FAILURE"

def ofName? (s : String) : Option Status := all.find? (·.name == s)

def inputPrompt : String := "Please enter an integer."

def failureText : String := "Program finished with errors."

/-- The fixed explanation of a status. -/
def hint? : Status → Option String
  | .ok | .output => none
  | .input => some inputPrompt
  | .failed .memorySize => some "Memory can only be set to a size between 0 and 100."
  | .failed .memoryAddress => some "The program accessed a memory address that does not exist."
  | .failed .unknownCommand => some "The program contains an unknown command."
  | .failed .unreadableLine => some "Every line must be empty or consist of a command and an integer."
  | .failed .divisionByZero => some "The program divided by zero."
  | .failed .invalidInput => some "The input is not an integer."
  | .succeeded => some "Program finished successfully."
  | .stopped => some failureText

/-- Whole milliseconds of a time in seconds and nanoseconds. -/
def milliseconds (seconds nanoseconds : Nat) : Nat := seconds * 1000 + nanoseconds / 1000000

/-- The text shown for a status of a run that has taken so many milliseconds. A printed value has
a text of its own. -/
def describe? (milliseconds : Nat) (s : Status) : Option String :=
  s.hint?.map fun hint =>
    match s with
    | .failed _ => hint ++ "\n" ++ failureText
    | .succeeded => s!"{hint}\nExecution took {Text.decimal milliseconds} ms."
    | _ => hint

theorem mem_all (s : Status) : s ∈ all := by
  cases s with
  | failed c => cases c <;> decide
  | _ => decide

/-- The user is told of every status but the silent one, if need be in the words of the program. -/
theorem exists_describe? (milliseconds : Nat) {s : Status} (hok : s ≠ .ok) (hout : s ≠ .output) :
    ∃ text, s.describe? milliseconds = some text := by
  cases s with
  | ok => exact absurd rfl hok
  | output => exact absurd rfl hout
  | failed c => cases c <;> exact ⟨_, rfl⟩
  | input | succeeded | stopped => exact ⟨_, rfl⟩

theorem exists_describe?_of_ends (milliseconds : Nat) {s : Status} (h : s.continues = false) :
    ∃ text, s.describe? milliseconds = some text := by
  apply exists_describe? <;>
  · rintro rfl
    cases h

end Status

end AccumulatorMachine
