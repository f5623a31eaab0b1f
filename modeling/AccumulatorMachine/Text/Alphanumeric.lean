import AccumulatorMachine.Text.AlphanumericTable
import AccumulatorMachine.Text.NumeralTable
import AccumulatorMachine.Text.Ranges

/-! Letters and numbers of all scripts. -/
namespace AccumulatorMachine.Text

def isAlphanumeric (c : Char) : Bool :=
  if c.toNat < 0x80 then c.isAlphanum else isInRanges alphanumericRanges c

/-- Numbers written with letters are alphabetic too. -/
def isAlphabetic (c : Char) : Bool :=
  if c.toNat < 0x80 then c.isAlpha
  else isInRanges alphanumericRanges c && !isInRanges numeralRanges c

theorem isAlphanumeric_of_lt {c : Char} (h : c.toNat < 0x80) : isAlphanumeric c = c.isAlphanum := by
  simp [isAlphanumeric, h]

theorem isAlphabetic_of_lt {c : Char} (h : c.toNat < 0x80) : isAlphabetic c = c.isAlpha := by
  simp [isAlphabetic, h]

theorem isAlphanumeric_of_isAlphabetic {c : Char} (h : isAlphabetic c = true) :
    isAlphanumeric c = true := by
  unfold isAlphabetic at h
  split at h <;> simp_all [isAlphanumeric, Char.isAlphanum]

end AccumulatorMachine.Text
