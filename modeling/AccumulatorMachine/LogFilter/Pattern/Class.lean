import AccumulatorMachine.LogFilter.Pattern
import AccumulatorMachine.Text.Blank

/-! Reading the signs of a pattern and classes of characters. In a verbose pattern blanks and
remarks between the signs do not count.

In a value no brace is closed after it is opened, so what would be in braces cannot be read. -/
namespace AccumulatorMachine.LogFilter.Pattern

/-! ### Remarks -/

/-- A remark goes from its sign up to the end of the line. -/
def dropRemarks ( inRemark : Bool) : List Char → List Char
  | [] => []
  | c :: cs =>
    if inRemark then dropRemarks (c != '\n') cs
    else if Text.isBlank c then dropRemarks false cs
    else if c = '#' then dropRemarks true cs
    else c :: cs

def skip (verbose : Bool) (cs : List Char) : List Char :=
  if verbose then dropRemarks false cs else cs

/-- The sign that seems to follow: in a verbose pattern the first one that is not blank, over the
sign of one remark but not over the remark. -/
def peek? (verbose : Bool) (cs : List Char) : Option Char :=
  if verbose then
    let rest :=
      match cs.dropWhile Text.isBlank with
      | '#' :: rest => rest.dropWhile Text.isBlank
      | rest => rest
    rest.head?.or cs.head?
  else cs.head?

/-! ### Escapes -/

def hexValue? (c : Char) : Option Nat :=
  if c.isDigit then some (c.toNat - '0'.toNat)
  else if 'a' ≤ c ∧ c ≤ 'f' then some (c.toNat - 'a'.toNat + 10)
  else if 'A' ≤ c ∧ c ≤ 'F' then some (c.toNat - 'A'.toNat + 10)
  else none

/-- A number of so many hexadecimal digits that goes on from the value of those before. -/
def readHex? (verbose : Bool) (value : Nat) : Nat → List Char → Option (Nat × List Char)
  | 0, cs => some (value, cs)
  | _ + 1, [] => none
  | digits + 1, c :: cs =>
    (hexValue? c).bind fun digit => readHex? verbose (16 * value + digit) digits (skip verbose cs)

/-- A character by its code point. Two digits are a byte. -/
def readCode? (verbose : Bool) (digits : Nat) (cs : List Char) : Option (Pattern × List Char) := do
  let (code, rest) ← readHex? verbose 0 digits (skip verbose cs)
  if code.isValidChar then return (.literal ⟨Char.ofNat code, digits == 2⟩, rest) else none

/-- Marks can be escaped, letters and digits only where the escape has a meaning. -/
def isEscapable (c : Char) : Bool := c.toNat < 0x80 && !c.isAlphanum

/-- The escapes of one letter or mark. There are no categories of characters. -/
def ofEscape? : Char → Option Pattern
  | 'a' => some (.literal ⟨'\x07', false⟩)
  | 'f' => some (.literal ⟨'\x0c', false⟩)
  | 'n' => some (.literal ⟨'\n', false⟩)
  | 'r' => some (.literal ⟨'\r', false⟩)
  | 't' => some (.literal ⟨'\t', false⟩)
  | 'v' => some (.literal ⟨'\x0b', false⟩)
  | 'A' | 'z' => some .anchor
  | 'b' | 'B' | '<' | '>' => some .wordPlace
  | 'd' | 's' | 'w' => some (.characters (.shorthand false))
  | 'D' | 'S' | 'W' => some (.characters (.shorthand true))
  | c => if isEscapable c then some (.literal ⟨c, false⟩) else none

/-- What follows a backslash. -/
def readEscape? (verbose : Bool) : List Char → Option (Pattern × List Char)
  | [] => none
  | 'x' :: cs => readCode? verbose 2 cs
  | 'u' :: cs => readCode? verbose 4 cs
  | 'U' :: cs => readCode? verbose 8 cs
  | c :: cs => (ofEscape? c).map fun p => (p, cs)

/-! ### Classes -/

def classNames : List (List Char) :=
  ["alnum", "alpha", "ascii", "blank", "cntrl", "digit", "graph", "lower", "print", "punct",
    "space", "upper", "word", "xdigit"].map String.toList

/-- A class with a name, after its opening bracket. -/
def readNamed? : List Char → Option (CharClass × List Char)
  | ':' :: cs =>
    let negated := cs.head? == some '^'
    let cs := if negated then cs.tail else cs
    let name := cs.takeWhile (· != ':')
    match cs.drop name.length with
    | ':' :: ']' :: rest => if classNames.contains name then some (.named negated, rest) else none
    | _ => none
  | _ => none

def readMember? (verbose : Bool) : List Char → Option (Pattern × List Char)
  | [] => none
  | '\\' :: cs => readEscape? verbose cs
  | c :: cs => some (.literal ⟨c, false⟩, cs)

/-- One element of a class or a range of characters. A dash before a bracket or a dash makes no
range. -/
def readRange? (verbose : Bool) (cs : List Char) : Option (CharClass × List Char) := do
  let (first, rest) ← readMember? verbose cs
  match skip verbose rest with
  | [] => none
  | '-' :: rest =>
    if peek? verbose rest == some ']' || peek? verbose rest == some '-' then
      return (← first.toClass?, '-' :: rest)
    else
      let (last, rest) ← readMember? verbose (skip verbose rest)
      let lo ← first.toLiteral?
      let hi ← last.toLiteral?
      if lo.char ≤ hi.char then return (.range lo hi, rest) else none
  | rest => return (← first.toClass?, rest)

/-- A class that is being read: the operand in front of the last operator, and the parts since then,
the last part first. -/
structure OpenClass where
  negated : Bool
  left? : Option CharClass
  parts : List CharClass

namespace OpenClass

def add (c : CharClass) (current : OpenClass) : OpenClass :=
  { current with parts := c :: current.parts }

/-- Operators have one rank, and the first is applied first. -/
def content (current : OpenClass) : CharClass :=
  let right := CharClass.ofParts current.parts.reverse
  match current.left? with
  | none => right
  | some left => .combined left right

def operate (current : OpenClass) : OpenClass :=
  { current with left? := some current.content, parts := [] }

def close (current : OpenClass) : CharClass := .bracketed current.negated current.content

end OpenClass

/-- Dashes at the beginning of a class stand for themselves. The bound is on their number. -/
def readDashes (verbose : Bool) : Nat → List Char → List CharClass × List Char
  | bound + 1, '-' :: cs =>
    let (dashes, rest) := readDashes verbose bound (skip verbose cs)
    (.literal ⟨'-', false⟩ :: dashes, rest)
  | _, cs => ([], cs)

/-- The beginning of a class after its bracket: a negation, and dashes or else a bracket that stand
for themselves. -/
def readOpening (verbose : Bool) (cs : List Char) : OpenClass × List Char :=
  let cs := skip verbose cs
  let negated := cs.head? == some '^'
  let cs := if negated then skip verbose cs.tail else cs
  match readDashes verbose cs.length cs with
  | ([], ']' :: rest) => (⟨negated, none, [.literal ⟨']', false⟩]⟩, skip verbose rest)
  | (dashes, rest) => (⟨negated, none, dashes⟩, rest)

/-- The rest of a class inside others, in no more steps than the bound. -/
def readClassRest? (verbose : Bool) :
    Nat → List OpenClass → OpenClass → List Char → Option (CharClass × List Char)
  | 0, _, _, _ => none
  | bound + 1, outer, current, cs =>
    match skip verbose cs with
    | [] => none
    | '[' :: rest =>
      match readNamed? rest with
      | some (c, rest) => readClassRest? verbose bound outer (current.add c) rest
      | none =>
        let (inner, rest) := readOpening verbose rest
        readClassRest? verbose bound (current :: outer) inner rest
    | ']' :: rest =>
      match outer with
      | [] => some (current.close, rest)
      | parent :: outer => readClassRest? verbose bound outer (parent.add current.close) rest
    | '&' :: '&' :: rest | '-' :: '-' :: rest | '~' :: '~' :: rest =>
      readClassRest? verbose bound outer current.operate rest
    | cs => do
      let (c, rest) ← readRange? verbose cs
      readClassRest? verbose bound outer (current.add c) rest

/-- A class after its opening bracket. -/
def readClass? (verbose : Bool) (cs : List Char) : Option (CharClass × List Char) :=
  let (current, rest) := readOpening verbose cs
  readClassRest? verbose (rest.length + 1) [] current rest

end AccumulatorMachine.LogFilter.Pattern
