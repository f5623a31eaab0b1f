import AccumulatorMachine.Document.Backup
import AccumulatorMachine.FileTree.Access
import AccumulatorMachine.Program

/-! The program file that is being edited, among the files around it. -/
namespace AccumulatorMachine

inductive DocumentError where
  | noDocument
  | file (error : FileError)
  deriving DecidableEq, Repr

def DocumentError.message : DocumentError → String
  | .noDocument => "no document is open"
  | .file e => e.message

structure Document where
  files : FileTree
  /-- The path of the open file. -/
  path? : Option String := none

namespace Document

/-- A text with its lines separated by line feeds only. -/
def normalize (text : String) : String := (Program.ofText text).toText

/-- The normalized text of a program file. -/
def load (files : FileTree) (path : String) : Except FileError String :=
  (files.readText path).map normalize

/-- As `load`, but of regular files only. -/
def loadFile (files : FileTree) (path : String) : Except FileError String :=
  if files.isFile path then load files path else .error ⟨path, .notRegular⟩

/-- An open file stays open if another one cannot be opened. -/
def openFile (d : Document) (path : String) : Except DocumentError String × Document :=
  match loadFile d.files path with
  | .ok text => (.ok text, { d with path? := some path })
  | .error e => (.error (.file e), d)

def read (d : Document) : Except DocumentError String :=
  match d.path? with
  | none => .error .noDocument
  | some path => (load d.files path).mapError .file

def save (d : Document) (text : String) : Except DocumentError Unit × Document :=
  match d.path? with
  | none => (.error .noDocument, d)
  | some path =>
    match d.files.writeText path text with
    | .ok files => (.ok (), { d with files })
    | .error e => (.error (.file e), d)

def close (d : Document) : Except DocumentError Unit × Document :=
  match d.path? with
  | none => (.error .noDocument, d)
  | some _ => (.ok (), { d with path? := none })

/-- Takes a backup away if that is possible. -/
def purge (files : FileTree) (backup : String) : FileTree :=
  match files.removeFile backup with
  | .ok files => files
  | .error _ => files

/-- The end of a deletion whose backup cannot be taken away: the file is restored from it. -/
def restore (d : Document) (path backup : String) : Document :=
  match d.files.copy backup path with
  | .ok files => ⟨purge files backup, some path⟩
  | .error _ => d

/-- Removes a file of which a backup has been made. -/
def deleteCopied (files : FileTree) (path backup : String) :
    Except DocumentError Unit × Document :=
  match files.removeFile path with
  | .error e => (.error (.file e), ⟨purge files backup, some path⟩)
  | .ok files =>
    match files.removeFile backup with
    | .ok files => (.ok (), ⟨files, none⟩)
    | .error e => (.error (.file e), restore ⟨files, none⟩ path backup)

/-- Removes the open file and closes it. The file is copied aside first. -/
def delete (d : Document) : Except DocumentError Unit × Document :=
  match d.path? with
  | none => (.error .noDocument, d)
  | some path =>
    match d.files.copy path (backupPath path) with
    | .error e => (.error (.file e), d)
    | .ok files => deleteCopied files path (backupPath path)

end Document

end AccumulatorMachine
