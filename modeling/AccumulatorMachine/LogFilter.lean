import AccumulatorMachine.Json.Reader
import AccumulatorMachine.LogFilter.Pattern.Reader
import AccumulatorMachine.LogFilter.Pattern.Support
import AccumulatorMachine.Text.Blank
import AccumulatorMachine.Text.Bytes

/-! Filters of the log. A filter is a list of directives with commas between them; a directive names
a target, a span with conditions on its fields, and a level. Only whether a filter can be read
matters here.

The places at which a directive is cut are found without the blanks in front of it and counted from
its beginning with them. If such a place is inside a character there is nothing to go on with. -/
namespace AccumulatorMachine.LogFilter

inductive FilterError where
  | refused
  /-- A cut would go through a character. -/
  | torn
  deriving DecidableEq, Repr

/-- What a directive is being read as. A number is the place where the part begins. -/
inductive Part where
  | start
  | targetOrLevel (first : Nat)
  | span (first : Nat)
  | field (first : Nat)
  | afterField
  | afterSpan
  | level (first : Nat)
  deriving DecidableEq, Repr

def cut (directive : List Char) (first last : Nat) : Except FilterError (List Char) :=
  match Text.slice? first last directive with
  | some part => .ok part
  | none => .error .torn

def cutFrom (directive : List Char) (first : Nat) : Except FilterError (List Char) :=
  match Text.dropBytes? first directive with
  | some part => .ok part
  | none => .error .torn

def accept (ok : Bool) : Except FilterError Unit := if ok then .ok () else .error .refused

/-! ### Levels and conditions -/

def levelNames : List (List Char) :=
  ["off", "error", "warn", "info", "debug", "trace"].map String.toList

/-- A number from zero to five. -/
def isLevelNumber (cs : List Char) : Bool :=
  let digits := match cs with
    | '+' :: ds => ds
    | ds => ds
  match Text.readNat? digits with
  | some n => n ≤ 5
  | none => false

/-- Without a text every level is meant. -/
def isLevel (cs : List Char) : Bool :=
  cs.isEmpty || isLevelNumber cs || levelNames.contains (cs.map Char.toLower)

def isInfinityOrNan (cs : List Char) : Bool :=
  ["inf", "infinity", "nan"].contains (String.ofList (cs.map Char.toLower))

/-- A decimal number without a sign. Digits stand before the point or after it. -/
def isDecimal (cs : List Char) : Bool :=
  let whole := cs.takeWhile Char.isDigit
  match cs.drop whole.length with
  | '.' :: rest =>
    let fraction := rest.takeWhile Char.isDigit
    !(whole ++ fraction).isEmpty && Json.isExponent (rest.drop fraction.length)
  | rest => !whole.isEmpty && Json.isExponent rest

/-- A number or a pattern. Of the numbers only those with a plus sign are no patterns. -/
def isValue : List Char → Bool
  | '+' :: cs => isInfinityOrNan cs || isDecimal cs
  | cs => ((Pattern.read? cs).map Pattern.isUsable).getD false

/-- The name of a field, alone or with the value it has to have. What follows a second equals sign
does not count. -/
def isCondition (cs : List Char) : Bool :=
  !cs.isEmpty &&
    match cs.dropWhile (· != '=') with
    | [] => true
    | _ :: value => isValue (value.takeWhile (· != '='))

/-! ### Directives -/

def startsTarget (c : Char) : Bool := c == '-' || c == ':' || c == '_' || Text.isAlphanumeric c

/-- Goes on with a character at a place. -/
def Part.next (directive : List Char) (place : Nat) (c : Char) : Part → Except FilterError Part
  | .start =>
    if c = '[' then .ok (.span (place + 1))
    else if startsTarget c then .ok (.targetOrLevel place)
    else .error .refused
  | .targetOrLevel first =>
    if c = '=' then (cut directive first place).map fun _ => .level (place + 1)
    else if c = '[' then (cut directive first place).map fun _ => .span (place + 1)
    else .ok (.targetOrLevel first)
  | .span first =>
    if c = ']' then (cut directive first place).map fun _ => .afterSpan
    else if c = '\x7b' then (cut directive first place).map fun _ => .field (place + 1)
    else .ok (.span first)
  | .field first =>
    if c = '\x7d' then do
      accept (isCondition (← cut directive first place))
      return .afterField
    else .ok (.field first)
  | .afterField => if c = ']' then .ok .afterSpan else .error .refused
  | .afterSpan => if c = '=' then .ok (.level (place + 1)) else .error .refused
  | .level first => .ok (.level first)

/-- Reads characters that begin at a place. -/
def Part.read (directive : List Char) (place : Nat) (part : Part) :
    List Char → Except FilterError Part
  | [] => .ok part
  | c :: cs => do (← part.next directive place c).read directive (place + c.utf8Size) cs

/-- A directive can end in a target, a span or a level. -/
def Part.finish (directive : List Char) : Part → Except FilterError Unit
  | .targetOrLevel first => (cutFrom directive first).map fun _ => ()
  | .level first => do accept (isLevel (← cutFrom directive first))
  | .afterSpan => .ok ()
  | .start | .span _ | .field _ | .afterField => .error .refused

def readDirective (directive : List Char) : Except FilterError Unit := do
  (← Part.start.read directive 0 (Text.trim directive)).finish directive

/-- Reads the directives in turn, without the empty ones, up to the first that cannot be read. -/
def read (filter : String) : Except FilterError Unit :=
  ((filter.toList.splitOnP (· == ',')).filter (!·.isEmpty)).forM readDirective

end AccumulatorMachine.LogFilter
