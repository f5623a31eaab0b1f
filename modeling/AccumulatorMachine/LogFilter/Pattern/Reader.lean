import AccumulatorMachine.LogFilter.Pattern.Class
import AccumulatorMachine.Text.Alphanumeric

/-! Reading patterns: groups with alternatives, and repetitions. -/
namespace AccumulatorMachine.LogFilter.Pattern

/-! ### Openings of groups -/

inductive Opening where
  | group (name? : Option (List Char)) (change : FlagChange)
  /-- Flags that hold from here on. -/
  | flags (change : FlagChange)

def isNameStart (c : Char) : Bool := c == '_' || Text.isAlphabetic c

def isNamePart (c : Char) : Bool :=
  c == '_' || c == '.' || c == '[' || c == ']' || Text.isAlphanumeric c

def isGroupName : List Char → Bool
  | [] => false
  | c :: cs => isNameStart c && cs.all isNamePart

def readName? (cs : List Char) : Option (Opening × List Char) :=
  let name := cs.takeWhile (· != '>')
  match cs.drop name.length with
  | '>' :: rest => if isGroupName name then some (.group (some name) .empty, rest) else none
  | _ => none

/-- Flags come once each. Those after a dash are taken back, and there is one at least. -/
def readChange? (cs : List Char) : Option FlagChange :=
  if cs.all ("imsUuRx-".toList.contains ·) && decide cs.Nodup && cs.getLast? != some '-' then
    let added := cs.takeWhile (· != '-')
    some ⟨added, cs.drop (added.length + 1)⟩
  else none

def readFlags? (cs : List Char) : Option (Opening × List Char) := do
  let flags := cs.takeWhile fun c => c != ':' && c != ')'
  let change ← readChange? flags
  match cs.drop flags.length with
  | ':' :: rest => return (.group none change, rest)
  | ')' :: rest => if flags.isEmpty then none else return (.flags change, rest)
  | _ => none

/-- What follows an opening parenthesis. -/
def readGroupOpening? : List Char → Option (Opening × List Char)
  | '?' :: 'P' :: '<' :: cs | '?' :: '<' :: cs => readName? cs
  | '?' :: cs => readFlags? cs
  | cs => some (.group none .empty, cs)

/-! ### Groups -/

/-- A group that is being read: the choices before, and the parts of this one, the last of each
first. -/
structure OpenGroup where
  change : FlagChange
  verbose : Bool
  choices : List Pattern
  parts : List Pattern

namespace OpenGroup

/-- A group inside another. -/
def inside (parent : OpenGroup) (change : FlagChange) : OpenGroup :=
  ⟨change, change.holds 'x' parent.verbose, [], []⟩

def add (p : Pattern) (current : OpenGroup) : OpenGroup :=
  { current with parts := p :: current.parts }

def setFlags (change : FlagChange) (current : OpenGroup) : OpenGroup :=
  { current.add (.flags change) with verbose := change.holds 'x' current.verbose }

def choose (current : OpenGroup) : OpenGroup :=
  { current with choices := .ofParts current.parts.reverse :: current.choices, parts := [] }

def repeatLast? (current : OpenGroup) : Option OpenGroup :=
  match current.parts with
  | [] => none
  | p :: ps => if p.isRepeatable then some { current with parts := .repeated p :: ps } else none

def content (current : OpenGroup) : Pattern := .ofChoices current.choose.choices.reverse

def close (current : OpenGroup) : Pattern := .group current.change current.content

end OpenGroup

/-- A repetition may be followed by a mark that it stops early. -/
def dropLazyMark : List Char → List Char
  | '?' :: cs => cs
  | cs => cs

/-- The rest of a group inside others, with the names of groups so far, in no more steps than the
bound. -/
def readRest? :
    Nat → List (List Char) → List OpenGroup → OpenGroup → List Char → Option Pattern
  | 0, _, _, _, _ => none
  | bound + 1, names, outer, current, cs =>
    match skip current.verbose cs with
    | [] => if outer.isEmpty then some current.content else none
    | '(' :: rest =>
      match readGroupOpening? (skip current.verbose rest) with
      | none => none
      | some (.flags change, rest) => readRest? bound names outer (current.setFlags change) rest
      | some (.group none change, rest) =>
        readRest? bound names (current :: outer) (current.inside change) rest
      | some (.group (some name) change, rest) =>
        if names.contains name then none
        else readRest? bound (name :: names) (current :: outer) (current.inside change) rest
    | ')' :: rest =>
      match outer with
      | [] => none
      | parent :: outer => readRest? bound names outer (parent.add current.close) rest
    | '|' :: rest => readRest? bound names outer current.choose rest
    | '*' :: rest | '+' :: rest | '?' :: rest => do
      readRest? bound names outer (← current.repeatLast?) (dropLazyMark rest)
    | '\x7b' :: _ => none
    | '[' :: rest => do
      let (c, rest) ← readClass? current.verbose rest
      readRest? bound names outer (current.add (.characters c)) rest
    | '\\' :: rest => do
      let (p, rest) ← readEscape? current.verbose rest
      readRest? bound names outer (current.add p) rest
    | '.' :: rest => readRest? bound names outer (current.add .any) rest
    | '^' :: rest | '$' :: rest => readRest? bound names outer (current.add .anchor) rest
    | c :: rest => readRest? bound names outer (current.add (.literal ⟨c, false⟩)) rest

def read? (cs : List Char) : Option Pattern :=
  readRest? (cs.length + 1) [] [] ⟨.empty, false, [], []⟩ cs

end AccumulatorMachine.LogFilter.Pattern
