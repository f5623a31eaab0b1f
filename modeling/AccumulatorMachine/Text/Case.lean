import AccumulatorMachine.Text.CaseTable
import AccumulatorMachine.Text.Ranges

/-! Full case conversion. A character may become several, and a capital sigma at the end of a word
becomes the final form. -/
namespace AccumulatorMachine.Text

def CaseRun.covers (r : CaseRun) (n : Nat) : Bool :=
  r.first ≤ n && n ≤ r.last && (n - r.first) % r.stride == 0

def shiftCase (runs : List CaseRun) (c : Char) : Char :=
  match runs.find? (·.covers c.toNat) with
  | some r => Char.ofNat (c.toNat + r.shift).toNat
  | none => c

/-- The other case of one character; ASCII letters need no table. -/
def convertCase (ascii : Char → Char) (sequences : List (Nat × List Nat)) (runs : List CaseRun)
    (c : Char) : List Char :=
  if c.toNat < 0x80 then [ascii c]
  else match sequences.lookup c.toNat with
    | some ns => ns.map Char.ofNat
    | none => [shiftCase runs c]

def lowerChar : Char → List Char := convertCase Char.toLower lowerSequences lowerRuns

def upperChar : Char → List Char := convertCase Char.toUpper upperSequences upperRuns

def isCased : Char → Bool := isInRanges casedRanges

def isCaseIgnorable : Char → Bool := isInRanges caseIgnorableRanges

/-- A cased character comes first once those without influence on case are skipped. -/
def meetsCased (cs : List Char) : Bool :=
  match cs.dropWhile isCaseIgnorable with
  | [] => false
  | c :: _ => isCased c

/-- A sigma is final when a word is before it, read backwards, and none goes on after it. -/
def lowerSigma (before after : List Char) : Char :=
  if meetsCased before && !meetsCased after then 'ς' else 'σ'

/-- Lower case of a text whose preceding characters are known in reverse order. -/
def lowerFrom (before : List Char) : List Char → List Char
  | [] => []
  | c :: after =>
    (if c = 'Σ' then [lowerSigma before after] else lowerChar c) ++ lowerFrom (c :: before) after

def lower (cs : List Char) : List Char := lowerFrom [] cs

def upper (cs : List Char) : List Char := cs.flatMap upperChar

def lowercase (s : String) : String := String.ofList (lower s.toList)

def uppercase (s : String) : String := String.ofList (upper s.toList)

/-- Equality up to the case of ASCII letters. -/
def equalsIgnoringAsciiCase (s t : String) : Bool :=
  s.toList.map Char.toLower == t.toList.map Char.toLower

theorem lowerChar_of_lt {c : Char} (h : c.toNat < 0x80) : lowerChar c = [c.toLower] := by
  simp [lowerChar, convertCase, h]

theorem upperChar_of_lt {c : Char} (h : c.toNat < 0x80) : upperChar c = [c.toUpper] := by
  simp [upperChar, convertCase, h]

end AccumulatorMachine.Text
