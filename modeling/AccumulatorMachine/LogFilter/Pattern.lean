/-! Regular expressions, as far as it matters whether they can be used: which characters a class has
and how often a part is repeated is left out. -/
namespace AccumulatorMachine.LogFilter

/-- A change of flags, by their letters: those that are set and those that are taken back. -/
structure FlagChange where
  added : List Char
  removed : List Char
  deriving DecidableEq, Repr

def FlagChange.empty : FlagChange := ⟨[], []⟩

/-- Whether a flag holds after the change. -/
def FlagChange.holds (change : FlagChange) (flag : Char) (before : Bool) : Bool :=
  change.added.contains flag || (before && !change.removed.contains flag)

/-- A character that stands for itself. -/
structure Literal where
  char : Char
  /-- It is written as a byte, by two hexadecimal digits. -/
  isByte : Bool
  deriving DecidableEq, Repr

/-- A set of characters. -/
inductive CharClass where
  | nothing
  | literal (l : Literal)
  | range (lo hi : Literal)
  /-- One of the classes with a name in colons. -/
  | named (negated : Bool)
  /-- Digits, blanks or characters of words. -/
  | shorthand (negated : Bool)
  | bracketed (negated : Bool) (content : CharClass)
  | union (parts : List CharClass)
  /-- An intersection or a difference. -/
  | combined (left right : CharClass)
  deriving Repr

/-- The union of the parts. One part alone is no union. -/
def CharClass.ofParts : List CharClass → CharClass
  | [] => .nothing
  | [c] => c
  | cs => .union cs

inductive Pattern where
  | empty
  /-- A change of flags for what follows in the group. -/
  | flags (change : FlagChange)
  | literal (l : Literal)
  /-- Any character but a line feed. -/
  | any
  /-- The beginning or the end of a line or of the text. -/
  | anchor
  /-- A place where a word begins or ends, or where none does. -/
  | wordPlace
  | characters (c : CharClass)
  | repeated (p : Pattern)
  | group (change : FlagChange) (p : Pattern)
  | sequence (ps : List Pattern)
  | choice (ps : List Pattern)
  deriving Repr

namespace Pattern

/-- One part after the other. One part alone is no sequence. -/
def ofParts : List Pattern → Pattern
  | [] => .empty
  | [p] => p
  | ps => .sequence ps

/-- One of the choices. One choice alone is none. -/
def ofChoices : List Pattern → Pattern
  | [] => .empty
  | [p] => p
  | ps => .choice ps

/-- Only what stands for one character can be in a class. -/
def toClass? : Pattern → Option CharClass
  | .literal l => some (.literal l)
  | .characters c => some c
  | _ => none

def toLiteral? : Pattern → Option Literal
  | .literal l => some l
  | _ => none

/-- A repetition needs something to repeat, and a change of flags is nothing. -/
def isRepeatable : Pattern → Bool
  | .empty | .flags _ => false
  | _ => true

end Pattern

/-! ### Depth -/

mutual

def CharClass.depth : CharClass → Nat
  | .bracketed _ content => content.depth + 1
  | .union parts => CharClass.depthAll parts + 1
  | .combined left right => max left.depth right.depth + 1
  | .nothing | .literal _ | .range _ _ | .named _ | .shorthand _ => 0

def CharClass.depthAll : List CharClass → Nat
  | [] => 0
  | c :: cs => max c.depth (CharClass.depthAll cs)

end

mutual

/-- How many parts of more than one sign are inside one another. -/
def Pattern.depth : Pattern → Nat
  | .characters c => c.depth
  | .repeated p | .group _ p => p.depth + 1
  | .sequence ps | .choice ps => Pattern.depthAll ps + 1
  | .empty | .flags _ | .literal _ | .any | .anchor | .wordPlace => 0

def Pattern.depthAll : List Pattern → Nat
  | [] => 0
  | p :: ps => max p.depth (Pattern.depthAll ps)

end

end AccumulatorMachine.LogFilter
