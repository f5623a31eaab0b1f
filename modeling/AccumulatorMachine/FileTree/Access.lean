import AccumulatorMachine.FileTree

/-! Texts in files, copies of files, and the errors that tell which path they are about. -/
namespace AccumulatorMachine

inductive FileCause where
  | system (error : PathError)
  | notRegular
  | invalidText
  /-- A copy was to be made of something that is no file. -/
  | sourceNotRegular
  deriving DecidableEq, Repr

structure FileError where
  path : String
  cause : FileCause
  deriving DecidableEq, Repr

namespace FileCause

def message : FileCause → String
  | .system e => e.message
  | .notRegular => "not a regular file"
  | .invalidText => "stream did not contain valid UTF-8"
  | .sourceNotRegular => "the source path is neither a regular file nor a symlink to a regular file"

end FileCause

def FileError.message (e : FileError) : String := s!"failed to access {e.path}: {e.cause.message}"

namespace FileTree

/-- The text of the bytes of a file. -/
def decode (path : String) (content : ByteArray) : Except FileError String :=
  match String.fromUTF8? content with
  | some text => .ok text
  | none => .error ⟨path, .invalidText⟩

def readText (t : FileTree) (path : String) : Except FileError String :=
  match t.read path with
  | .ok content => decode path content
  | .error e => .error ⟨path, .system e⟩

def writeText (t : FileTree) (path text : String) : Except FileError FileTree :=
  (t.write path text.toUTF8).mapError fun e => ⟨path, .system e⟩

def removeFile (t : FileTree) (path : String) : Except FileError FileTree :=
  (t.remove path).mapError fun e => ⟨path, .system e⟩

/-- Copies a file. The source is looked at first; an error is said to be about the target. -/
def copy (t : FileTree) (source target : String) : Except FileError FileTree :=
  match t.find source with
  | .ok (.file _ content) => (t.write target content).mapError fun e => ⟨target, .system e⟩
  | .ok .directory => .error ⟨target, .sourceNotRegular⟩
  | .ok (.vacant _) => .error ⟨target, .system .missing⟩
  | .error e => .error ⟨target, .system e⟩

end FileTree

end AccumulatorMachine
