import AccumulatorMachine.FileTree

/-! The path at which a file is kept while it is deleted: next to the file, with a name that says so in
front of the extension. -/
namespace AccumulatorMachine.Document

/-- The name before the last dot and what comes after the dot. A dot that starts the name does not
count. -/
def splitName (name : List Char) : List Char × Option (List Char) :=
  let reversed := name.reverse
  let stem := ((reversed.dropWhile (· != '.')).drop 1).reverse
  if stem.isEmpty then (name, none) else (stem, some (reversed.takeWhile (· != '.')).reverse)

def backupName (name : List Char) : List Char :=
  match splitName name with
  | (stem, none) => stem ++ "-backup".toList
  | (stem, some extension) => stem ++ "-backup.".toList ++ extension

/-- The pieces of a path without the last ones that lead nowhere. -/
def trimPieces (pieces : List (List Char)) : List (List Char) :=
  (pieces.reverse.dropWhile fun p => p.isEmpty || p == ['.']).reverse

def backupPath (path : String) : String :=
  let pieces := trimPieces (path.toList.splitOnP (· == '/'))
  match pieces.getLast? with
  | none => path ++ "-backup"
  | some name =>
    String.ofList (['/'].intercalate (trimPieces pieces.dropLast ++ [backupName name]))

end AccumulatorMachine.Document
