import AccumulatorMachine.Json.Value

/-! Reading JSON. The text is cut into tokens, and the tokens drive a stack of the arrays and
objects that are still open. -/
namespace AccumulatorMachine.Json

inductive Token where
  | openArray | closeArray | openObject | closeObject | comma | colon
  | null
  | bool (b : Bool)
  | number (literal : List Char)
  | string (text : String)
  deriving DecidableEq

/-! ### Tokens -/

def isSpace (c : Char) : Bool := c == ' ' || c == '\t' || c == '\n' || c == '\r'

def punctuation? : Char → Option Token
  | '[' => some .openArray
  | ']' => some .closeArray
  | '{' => some .openObject
  | '}' => some .closeObject
  | ',' => some .comma
  | ':' => some .colon
  | _ => none

/-- A nonempty run of digits and what follows it. -/
def digits? (cs : List Char) : Option (List Char) :=
  if (cs.takeWhile Char.isDigit).isEmpty then none else some (cs.dropWhile Char.isDigit)

def isExponent : List Char → Bool
  | [] => true
  | e :: cs =>
    (e == 'e' || e == 'E') &&
      digits? (match cs with
        | '+' :: ds => ds
        | '-' :: ds => ds
        | ds => ds) == some []

def isFraction : List Char → Bool
  | '.' :: cs =>
    match digits? cs with
    | some rest => isExponent rest
    | none => false
  | cs => isExponent cs

/-- A number without its sign. A leading zero stands alone. -/
def isMagnitude : List Char → Bool
  | '0' :: cs => isFraction cs
  | cs =>
    match digits? cs with
    | some rest => isFraction rest
    | none => false

def isNumber : List Char → Bool
  | '-' :: cs => isMagnitude cs
  | cs => isMagnitude cs

/-- The characters of numbers and of the three names. -/
def isPlain (c : Char) : Bool := c.isAlphanum || c == '+' || c == '-' || c == '.'

def plain? (cs : List Char) : Option Token :=
  if cs = "null".toList then some .null
  else if cs = "true".toList then some (.bool true)
  else if cs = "false".toList then some (.bool false)
  else if isNumber cs then some (.number cs)
  else none

/-- Tokens of a text no longer than the bound. -/
def tokensWithin : Nat → List Char → Option (List Token)
  | _, [] => some []
  | 0, _ :: _ => none
  | n + 1, c :: cs =>
    if isSpace c then tokensWithin n cs
    else if c = '"' then
      match unquote cs with
      | none => none
      | some (text, rest) => (tokensWithin n rest).map (.string (String.ofList text) :: ·)
    else
      match punctuation? c with
      | some t => (tokensWithin n cs).map (t :: ·)
      | none =>
        match plain? ((c :: cs).takeWhile isPlain) with
        | none => none
        | some t => (tokensWithin n ((c :: cs).dropWhile isPlain)).map (t :: ·)

def tokens? (cs : List Char) : Option (List Token) := tokensWithin cs.length cs

/-! ### Values -/

/-- An array or object that has been opened, with what it holds so far in reverse order. -/
inductive Frame where
  | array (items : List Json)
  | object (members : List (String × Json)) (key : String)

/-- What has to come next. -/
inductive Goal where
  | value
  | firstItem
  | firstMember
  | member (members : List (String × Json))
  | colon (members : List (String × Json)) (key : String)
  /-- A value is complete. -/
  | found (value : Json)

abbrev Parse := Goal × List Frame

def stepValue (stack : List Frame) : Token → Option Parse
  | .null => some (.found .null, stack)
  | .bool b => some (.found (.bool b), stack)
  | .number literal => some (.found (.number literal), stack)
  | .string text => some (.found (.string text), stack)
  | .openArray => some (.firstItem, .array [] :: stack)
  | .openObject => some (.firstMember, stack)
  | _ => none

def stepFound (value : Json) : List Frame → Token → Option Parse
  | .array items :: stack, .comma => some (.value, .array (value :: items) :: stack)
  | .array items :: stack, .closeArray =>
    some (.found (.array (value :: items).reverse), stack)
  | .object members key :: stack, .comma => some (.member ((key, value) :: members), stack)
  | .object members key :: stack, .closeObject =>
    some (.found (.object ((key, value) :: members).reverse), stack)
  | _, _ => none

def step : Parse → Token → Option Parse
  | (.value, stack), t => stepValue stack t
  | (.firstItem, .array [] :: stack), .closeArray => some (.found (.array []), stack)
  | (.firstItem, stack), t => stepValue stack t
  | (.firstMember, stack), .closeObject => some (.found (.object []), stack)
  | (.firstMember, stack), .string key => some (.colon [] key, stack)
  | (.member members, stack), .string key => some (.colon members key, stack)
  | (.colon members key, stack), .colon => some (.value, .object members key :: stack)
  | (.found value, stack), t => stepFound value stack t
  | _, _ => none

def ofTokens? (ts : List Token) : Option Json :=
  match ts.foldlM step (.value, []) with
  | some (.found value, []) => some value
  | _ => none

/-- The value of a text, if the text is JSON. -/
def read? (text : String) : Option Json := (tokens? text.toList).bind ofTokens?

end AccumulatorMachine.Json
