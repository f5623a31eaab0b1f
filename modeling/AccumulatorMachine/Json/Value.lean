import AccumulatorMachine.Json.Quoted
import AccumulatorMachine.Text.Decimal

/-! JSON values and their compact text. -/
namespace AccumulatorMachine

/-- The members of an object stay in order, and a key may come twice; a number is its literal. -/
inductive Json where
  | null
  | bool (b : Bool)
  | number (literal : List Char)
  | string (text : String)
  | array (items : List Json)
  | object (members : List (String × Json))

namespace Json

def nat (n : Nat) : Json := .number (Text.writeNat n)

def writeString (s : String) : List Char := quote s.toList

mutual

def write : Json → List Char
  | .null => "null".toList
  | .bool true => "true".toList
  | .bool false => "false".toList
  | .number literal => literal
  | .string text => writeString text
  | .array items => '[' :: writeItems items
  | .object members => '{' :: writeMembers members

/-- The items with a comma between them, up to the closing bracket. -/
def writeItems : List Json → List Char
  | [] => [']']
  | [j] => write j ++ [']']
  | j :: js => write j ++ ',' :: writeItems js

def writeMembers : List (String × Json) → List Char
  | [] => ['}']
  | [m] => writeMember m ++ ['}']
  | m :: ms => writeMember m ++ ',' :: writeMembers ms

def writeMember : String × Json → List Char
  | (key, value) => writeString key ++ ':' :: write value

end

def render (j : Json) : String := String.ofList j.write

end Json

end AccumulatorMachine
