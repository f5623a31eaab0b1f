/-! Lines of a text. A line ends at a line feed, and a return directly before the feed belongs to
the end; what follows the last feed is a line only if it is not empty. -/
namespace AccumulatorMachine.Text

/-- Puts a character in front of the first line. -/
def consLine (c : Char) : List (List Char) → List (List Char)
  | [] => [[c]]
  | l :: ls => (c :: l) :: ls

def lines : List Char → List (List Char)
  | [] => []
  | '\n' :: cs => [] :: lines cs
  | '\r' :: '\n' :: cs => [] :: lines cs
  | c :: cs => consLine c (lines cs)

/-- The lines with a line feed between them. -/
def joinLines (ls : List (List Char)) : List Char := ['\n'].intercalate ls

@[simp] theorem lines_nil : lines [] = [] := rfl

@[simp] theorem lines_feed (cs : List Char) : lines ('\n' :: cs) = [] :: lines cs := rfl

end AccumulatorMachine.Text
