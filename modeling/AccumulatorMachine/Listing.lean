import AccumulatorMachine.Machine
import AccumulatorMachine.Program

/-! Tables of a program and of the memory, and their text with aligned columns. -/
namespace AccumulatorMachine

abbrev Table := List (List String)

namespace Listing

/-- The marker of the next line, the number of the line, and its instruction; a line that is none
is shown without the blanks around it. -/
def programRow (pc : Int) (line : String) (index : Nat) : List String :=
  let shown := match Instruction.ofLine line with
    | .ok i => i.cells
    | .error _ => [String.ofList (Text.trim line.toList)]
  (if pc = index then ">" else "") :: Text.decimal (index + 1) :: shown

def programTable (p : Program) (pc : Int) : Table :=
  p.zipIdx.map fun (line, index) => programRow pc line index

/-- Cell numbers over cell values. -/
def memoryTable : Option (List Int32) → Table
  | none => [["memory not set"]]
  | some cells =>
    ["acc" :: (List.range' 1 (cells.length - 1)).map Text.decimal, cells.map Text.decimal32]

/-- The longer of two widths in every column. -/
def maxWidths : List Nat → List Nat → List Nat
  | w :: ws, v :: vs => max w v :: maxWidths ws vs
  | [], vs => vs
  | ws, [] => ws

def columnWidths (t : Table) : List Nat :=
  t.foldl (fun widths row => maxWidths widths (row.map String.length)) []

def pad (text : String) (width : Nat) : List Char :=
  text.toList ++ List.replicate (width - text.length) ' '

/-- One row, without the blanks at its end. -/
def renderRow (widths : List Nat) (row : List String) : String :=
  String.ofList (Text.trimRight ([' '].intercalate (List.zipWith pad row widths)))

/-- The most characters that a column can be padded to. -/
def maxWidth : Nat := 65535

/-- None of the columns that the row has is too wide. -/
def rowFits (widths : List Nat) (row : List String) : Bool :=
  (widths.take row.length).all (· ≤ maxWidth)

def tableFits (t : Table) : Bool := t.all (rowFits (columnWidths t))

/-- The rows up to the first that does not fit. -/
def renderTable (t : Table) : List String :=
  (t.takeWhile (rowFits (columnWidths t))).map (renderRow (columnWidths t))

/-- A program can be shown, at whatever point of its execution. -/
def programFits (p : Program) : Bool := tableFits (programTable p 0)

/-- The lines that show a program at a point of its execution. A memory always fits. -/
def dump (p : Program) (s : Snapshot) : List String :=
  renderTable (programTable p s.pc) ++
    if programFits p then renderTable (memoryTable s.memory) ++ [""] else []

end Listing

end AccumulatorMachine
