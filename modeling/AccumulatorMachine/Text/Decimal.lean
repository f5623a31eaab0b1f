/-! Decimal text of integers. A number is read with one optional sign and ASCII digits only, and
written with the fewest digits. -/
namespace AccumulatorMachine.Text

/-- The number that a nonempty run of digits denotes. -/
def readNat? (cs : List Char) : Option Nat :=
  if !cs.isEmpty && cs.all Char.isDigit then some (Nat.ofDigitChars 10 cs 0) else none

def readInt? : List Char → Option Int
  | '-' :: ds => (readNat? ds).map fun n => -(n : Int)
  | '+' :: ds => (readNat? ds).map Int.ofNat
  | ds => (readNat? ds).map Int.ofNat

/-- The integers of 32 bits. -/
def fitsInt32 (n : Int) : Bool := -2147483648 ≤ n && n ≤ 2147483647

/-- A number outside the 32-bit range is no number of a program. -/
def readInt32? (cs : List Char) : Option Int32 :=
  (readInt? cs).bind fun n => if fitsInt32 n then some (Int32.ofInt n) else none

def writeNat (n : Nat) : List Char := Nat.toDigits 10 n

def writeInt : Int → List Char
  | .ofNat n => writeNat n
  | .negSucc n => '-' :: writeNat (n + 1)

def decimal (n : Nat) : String := String.ofList (writeNat n)

def decimal32 (x : Int32) : String := String.ofList (writeInt x.toInt)

@[simp] theorem readNat?_writeNat (n : Nat) : readNat? (writeNat n) = some n := by
  have hne : (Nat.toDigits 10 n).isEmpty = false := by
    simp [List.isEmpty_eq_false_iff, Nat.toDigits_ne_nil]
  have hall : (Nat.toDigits 10 n).all Char.isDigit = true := by
    simp only [List.all_eq_true]
    exact fun c hc => Nat.isDigit_of_mem_toDigits (by decide) (by decide) hc
  simp [readNat?, writeNat, hne, hall, Nat.ofDigitChars_ten_toDigits]

end AccumulatorMachine.Text
