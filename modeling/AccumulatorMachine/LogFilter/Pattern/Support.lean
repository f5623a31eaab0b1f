import AccumulatorMachine.LogFilter.Pattern

/-! Which patterns can be used. There are no tables of the properties of characters, so in the mode
of characters nothing may depend on the case of letters, on digits, on blanks or on words. In the
mode of bytes nothing may stand for a part of a character. -/
namespace AccumulatorMachine.LogFilter

/-- The flags that matter. -/
structure Mode where
  ignoresCase : Bool
  /-- A pattern is about characters, and not about bytes. -/
  isUnicode : Bool
  deriving DecidableEq, Repr

namespace Mode

def initial : Mode := ⟨false, true⟩

def change (mode : Mode) (change : FlagChange) : Mode :=
  ⟨change.holds 'i' mode.ignoresCase, change.holds 'u' mode.isUnicode⟩

/-- A byte beyond ASCII is a part of a character. -/
def hasLiteral (mode : Mode) (l : Literal) : Bool :=
  if mode.isUnicode then !mode.ignoresCase else !l.isByte || l.char.toNat < 0x80

/-- A class of bytes has no character of more than one. -/
def hasMember (mode : Mode) (l : Literal) : Bool :=
  if mode.isUnicode then !mode.ignoresCase else l.char.toNat < 0x80

end Mode

mutual

/-- The complement of a class of ASCII characters has bytes beyond ASCII. -/
def CharClass.isSupported (mode : Mode) : CharClass → Bool
  | .nothing => true
  | .literal l => mode.hasMember l
  | .range lo hi => mode.hasMember lo && mode.hasMember hi
  | .named negated => if mode.isUnicode then !mode.ignoresCase else !negated
  | .shorthand negated => !mode.isUnicode && !negated
  | .bracketed negated content => (mode.isUnicode || !negated) && content.isSupported mode
  | .union parts => CharClass.areSupported mode parts
  | .combined left right => left.isSupported mode && right.isSupported mode

def CharClass.areSupported (mode : Mode) : List CharClass → Bool
  | [] => true
  | c :: cs => c.isSupported mode && CharClass.areSupported mode cs

end

mutual

/-- The mode after a pattern that is supported. A change of flags holds up to the end of the group,
also in the choices that follow. -/
def Pattern.after? (mode : Mode) : Pattern → Option Mode
  | .empty | .anchor => some mode
  | .flags change => some (mode.change change)
  | .literal l => if mode.hasLiteral l then some mode else none
  | .any => if mode.isUnicode then some mode else none
  | .wordPlace => if mode.isUnicode then none else some mode
  | .characters c => if c.isSupported mode then some mode else none
  | .repeated p => p.after? mode
  | .group change p => (p.after? (mode.change change)).map fun _ => mode
  | .sequence ps | .choice ps => Pattern.afterAll? mode ps

def Pattern.afterAll? (mode : Mode) : List Pattern → Option Mode
  | [] => some mode
  | p :: ps => (p.after? mode).bind fun mode => Pattern.afterAll? mode ps

end

def Pattern.maxDepth : Nat := 250

def Pattern.isUsable (p : Pattern) : Bool :=
  decide (p.depth ≤ maxDepth) && (p.after? .initial).isSome

end AccumulatorMachine.LogFilter
