/-! A tree of files and directories, and what the text of a path leads to in it. -/
namespace AccumulatorMachine

inductive Node where
  | file (content : ByteArray)
  | directory

/-- The names from the root to an entry. -/
abbrev Location := List String

/-- Every entry but the root, which is always a directory. -/
structure FileTree where
  entries : List (Location × Node) := []

/-- Why a path cannot be used. -/
inductive PathError where
  | missing
  | notDirectory
  | isDirectory
  | nameTooLong
  deriving DecidableEq, Repr

namespace PathError

/-- The number of the error on the system. -/
def code : PathError → Nat
  | .missing => 2
  | .notDirectory => 20
  | .isDirectory => 21
  | .nameTooLong => 36

def message : PathError → String
  | .missing => "No such file or directory (os error 2)"
  | .notDirectory => "Not a directory (os error 20)"
  | .isDirectory => "Is a directory (os error 21)"
  | .nameTooLong => "File name too long (os error 36)"

end PathError

/-- What a path leads to. -/
inductive Found where
  | file (location : Location) (content : ByteArray)
  | directory
  /-- Nothing, in a directory that exists. -/
  | vacant (location : Location)

namespace FileTree

def node? (t : FileTree) (l : Location) : Option Node :=
  if l.isEmpty then some .directory else t.entries.lookup l

def put (t : FileTree) (l : Location) (node : Node) : FileTree :=
  ⟨(l, node) :: t.entries.filter (·.1 != l)⟩

def erase (t : FileTree) (l : Location) : FileTree := ⟨t.entries.filter (·.1 != l)⟩

/-- Takes an entry away with everything below it. -/
def prune (t : FileTree) (l : Location) : FileTree := ⟨t.entries.filter fun e => !l.isPrefixOf e.1⟩

/-- Puts an entry, and directories above it where nothing is. -/
def plant (t : FileTree) (l : Location) (node : Node) : FileTree :=
  let above := ((List.range l.length).map l.take).filter fun p => (t.node? p).isNone
  (above.foldl (fun t p => t.put p .directory) t).put l node

/-! ### Paths -/

/-- The most bytes that a name can have. -/
def maxName : Nat := 255

/-- The most bytes that a path can have. -/
def maxPath : Nat := 4095

/-- Follows the pieces of a path from a directory. The directory is none once the path has left the
tree, outside of which nothing is known. -/
def follow (t : FileTree) : Option Location → List String → Except PathError Found
  | _, [] => .ok .directory
  | place, piece :: rest =>
    if piece = "" ∨ piece = "." then t.follow place rest
    else if piece = ".." then
      t.follow (place.bind fun l => if l.isEmpty then none else some l.dropLast) rest
    else if maxName < piece.utf8ByteSize then .error .nameTooLong
    else
      match place with
      | none => .error .missing
      | some l =>
        match t.node? (l ++ [piece]) with
        | none => if rest.isEmpty then .ok (.vacant (l ++ [piece])) else .error .missing
        | some .directory => t.follow (some (l ++ [piece])) rest
        | some (.file content) =>
          if rest.isEmpty then .ok (.file (l ++ [piece]) content) else .error .notDirectory

def pieces (path : String) : List String := (path.toList.splitOnP (· == '/')).map String.ofList

/-- A path is relative to the root of the tree, unless it starts with a slash and lies outside. -/
def find (t : FileTree) (path : String) : Except PathError Found :=
  if path.isEmpty then .error .missing
  else if maxPath < path.utf8ByteSize then .error .nameTooLong
  else t.follow (if path.startsWith "/" then none else some []) (pieces path)

def isFile (t : FileTree) (path : String) : Bool :=
  match t.find path with
  | .ok (.file _ _) => true
  | _ => false

def read (t : FileTree) (path : String) : Except PathError ByteArray :=
  match t.find path with
  | .ok (.file _ content) => .ok content
  | .ok .directory => .error .isDirectory
  | .ok (.vacant _) => .error .missing
  | .error e => .error e

/-- Replaces a file or makes one. -/
def write (t : FileTree) (path : String) (content : ByteArray) : Except PathError FileTree :=
  match t.find path with
  | .ok (.file l _) | .ok (.vacant l) => .ok (t.put l (.file content))
  | .ok .directory => .error .isDirectory
  | .error e => .error e

def remove (t : FileTree) (path : String) : Except PathError FileTree :=
  match t.find path with
  | .ok (.file l _) => .ok (t.erase l)
  | .ok .directory => .error .isDirectory
  | .ok (.vacant _) => .error .missing
  | .error e => .error e

end FileTree

end AccumulatorMachine
