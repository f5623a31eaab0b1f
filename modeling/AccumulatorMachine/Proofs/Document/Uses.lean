import AccumulatorMachine.Proofs.Document
import AccumulatorMachine.Proofs.Since

/-! A document over any number of uses, while others do with the files what they like. What fails has
done nothing, and the open file is the one that was opened last. -/
namespace AccumulatorMachine.Document

inductive Use where
  | openFile (path : String)
  | read
  | save (text : String)
  | close
  | delete
  /-- Others have changed the files. -/
  | others (files : FileTree)

namespace Use

/-- What a use gives, which may be a text, and what it leaves. -/
def perform (d : Document) : Use → Except DocumentError (Option String) × Document
  | .openFile path => ((d.openFile path).1.map some, (d.openFile path).2)
  | .read => (d.read.map some, d)
  | .save text => ((d.save text).1.map fun _ => none, (d.save text).2)
  | .close => (d.close.1.map fun _ => none, d.close.2)
  | .delete => (d.delete.1.map fun _ => none, d.delete.2)
  | .others files => (.ok none, { d with files })

/-- The use changes which file is open. -/
def moves : Use → Bool
  | .openFile _ | .close | .delete => true
  | _ => false

/-- The use is of the open file. -/
def needsFile : Use → Bool
  | .read | .save _ | .close | .delete => true
  | _ => false

end Use

def after (d : Document) : List Use → Document
  | [] => d
  | use :: uses => (use.perform d).2.after uses

/-- The uses that have not failed. -/
def succeeded (d : Document) : List Use → List Use
  | [] => []
  | use :: uses =>
    (if (use.perform d).1.isOk then [use] else []) ++ (use.perform d).2.succeeded uses

/-- This file has been opened, and since then no other has been and it has been neither closed nor
deleted. -/
def OpenedLast (path : String) (log : List Use) : Prop :=
  Since (· = .openFile path) (·.moves = false) log

/-! ### What a use does -/

/-- What a use comes to. -/
inductive Outcome (d : Document) (use : Use) : Except DocumentError (Option String) × Document → Prop
  | done {text? : Option String} {d' : Document}
      (hneeds : use.needsFile = true → d.path?.isSome = true)
      (hpath : ∀ path, d'.path? = some path ↔
        use = .openFile path ∨ use.moves = false ∧ d.path? = some path) :
      Outcome d use (.ok text?, d')
  | closed (hneeds : use.needsFile = true) (hpath : d.path? = none) :
      Outcome d use (.error .noDocument, d)
  | failed (cause : FileError) (hneeds : use.needsFile = true → d.path?.isSome = true) :
      Outcome d use (.error (.file cause), d)

variable {d : Document} {use : Use}

section
variable {text? : Option String} {d' : Document}
  (hneeds : use.needsFile = true → d.path?.isSome = true)
include hneeds

/-- The use leaves the file open that is open. -/
theorem Outcome.stays (hstays : use.moves = false) (hpath : d'.path? = d.path?) :
    Outcome d use (.ok text?, d') := by
  refine .done hneeds fun path => ?_
  have hopens : use ≠ .openFile path := by
    rintro rfl
    cases hstays
  simp [hpath, hstays, hopens]

/-- The use leaves no file open. -/
theorem Outcome.shuts (hmoves : use.moves = true) (hopens : ∀ path, use ≠ .openFile path)
    (hpath : d'.path? = none) : Outcome d use (.ok text?, d') := by
  refine .done hneeds fun path => ?_
  simp [hpath, hmoves, hopens]

end

theorem outcome_of_none (hneeds : use.needsFile = true) (hpath : d.path? = none) :
    Outcome d use (use.perform d) := by
  cases use with
  | openFile | others => cases hneeds
  | read =>
    simp only [Use.perform, read, hpath]
    exact .closed hneeds hpath
  | save | close | delete =>
    simp only [Use.perform, save, close, delete, hpath]
    exact .closed hneeds hpath

theorem outcome_openFile (d : Document) (path : String) :
    Outcome d (.openFile path) ((Use.openFile path).perform d) := by
  cases hload : loadFile d.files path with
  | ok text =>
    simp only [Use.perform, openFile, hload]
    exact .done nofun fun path' => by simp [Use.moves]
  | error cause =>
    simp only [Use.perform, openFile, hload]
    exact .failed cause nofun

section OpenFile

variable {path : String} (hpath : d.path? = some path)
include hpath

theorem outcome_read : Outcome d .read (Use.read.perform d) := by
  have hopen : d.path?.isSome = true := Option.isSome_of_eq_some hpath
  cases hload : load d.files path with
  | ok text =>
    simp only [Use.perform, read, hpath, hload]
    exact .stays (fun _ => hopen) rfl rfl
  | error cause =>
    simp only [Use.perform, read, hpath, hload]
    exact .failed cause fun _ => hopen

theorem outcome_save (text : String) : Outcome d (.save text) ((Use.save text).perform d) := by
  have hopen : d.path?.isSome = true := Option.isSome_of_eq_some hpath
  cases hwrite : d.files.writeText path text with
  | ok files =>
    simp only [Use.perform, save, hpath, hwrite]
    exact .stays (fun _ => hopen) rfl hpath.symm
  | error cause =>
    simp only [Use.perform, save, hpath, hwrite]
    exact .failed cause fun _ => hopen

theorem outcome_close : Outcome d .close (Use.close.perform d) := by
  have hopen : d.path?.isSome = true := Option.isSome_of_eq_some hpath
  simp only [Use.perform, close, hpath]
  exact .shuts (fun _ => hopen) rfl nofun rfl

/-- The stages after the copy do not fail, so that no half of a deletion is left. -/
theorem outcome_delete : Outcome d .delete (Use.delete.perform d) := by
  have hopen : d.path?.isSome = true := Option.isSome_of_eq_some hpath
  cases hcopy : d.files.copy path (backupPath path) with
  | ok files =>
    obtain ⟨-, -, -, -, hok, hclosed, -⟩ := delete_of_copy hpath hcopy
    rw [Use.perform, hok]
    exact .shuts (fun _ => hopen) rfl nofun hclosed
  | error cause =>
    simp only [Use.perform, delete, hpath, hcopy]
    exact .failed cause fun _ => hopen

end OpenFile

theorem outcome (d : Document) (use : Use) : Outcome d use (use.perform d) := by
  cases hpath : d.path? with
  | none =>
    cases use with
    | openFile path => exact outcome_openFile d path
    | others files => exact .stays nofun rfl rfl
    | read | save | close | delete => exact outcome_of_none rfl hpath
  | some path =>
    cases use with
    | openFile path => exact outcome_openFile d path
    | others files => exact .stays nofun rfl rfl
    | read => exact outcome_read hpath
    | save text => exact outcome_save hpath text
    | close => exact outcome_close hpath
    | delete => exact outcome_delete hpath

theorem eq_of_error {e : DocumentError} (h : (use.perform d).1 = .error e) :
    (use.perform d).2 = d := by
  have houtcome := outcome d use
  generalize use.perform d = r at h houtcome
  cases houtcome with
  | done => cases h
  | closed | failed => rfl

theorem noDocument_iff :
    (use.perform d).1 = .error .noDocument ↔ use.needsFile = true ∧ d.path? = none := by
  have houtcome := outcome d use
  generalize use.perform d = r at houtcome
  have hopen : (use.needsFile = true → d.path?.isSome = true) →
      ¬ (use.needsFile = true ∧ d.path? = none) := by
    rintro hneeds ⟨huse, hnone⟩
    have hsome := hneeds huse
    rw [hnone] at hsome
    cases hsome
  cases houtcome with
  | done hneeds => exact iff_of_false nofun (hopen hneeds)
  | closed hneeds hpath => exact iff_of_true rfl ⟨hneeds, hpath⟩
  | failed cause hneeds => exact iff_of_false nofun (hopen hneeds)

/-! ### Which file is open -/

theorem path?_of_perform {log : List Use} (h : ∀ path, d.path? = some path ↔ OpenedLast path log)
    (use : Use) (path : String) :
    (use.perform d).2.path? = some path ↔
      OpenedLast path (log ++ if (use.perform d).1.isOk then [use] else []) := by
  have houtcome := outcome d use
  generalize use.perform d = r at houtcome
  cases houtcome with
  | done _ hpath =>
    have hconcat : OpenedLast path (log ++ [use]) ↔
        use = .openFile path ∨ use.moves = false ∧ OpenedLast path log := since_concat
    rw [hpath, h path]
    exact hconcat.symm
  | closed | failed =>
    simpa [Except.isOk, Except.toBool] using h path

theorem path?_of_uses {log : List Use} (h : ∀ path, d.path? = some path ↔ OpenedLast path log)
    (uses : List Use) (path : String) :
    (d.after uses).path? = some path ↔ OpenedLast path (log ++ d.succeeded uses) := by
  induction uses generalizing d log with
  | nil => simpa [after, succeeded] using h path
  | cons use uses ih =>
    have hlater := ih (path?_of_perform h use)
    rwa [List.append_assoc] at hlater

/-- However a document is used and whatever others do with the files: a use that fails leaves the
open path and all the files as they were; the file is open that was opened last, unless it has been
closed or deleted since; and the uses of the open file fail for want of one exactly when there is
none. -/
theorem failed_use_changes_nothing (files : FileTree) (uses : List Use) :
    let d := (⟨files, none⟩ : Document).after uses
    (∀ (use : Use) e, (use.perform d).1 = .error e → (use.perform d).2 = d) ∧
    (∀ path, d.path? = some path ↔
      OpenedLast path ((⟨files, none⟩ : Document).succeeded uses)) ∧
    (∀ use : Use, (use.perform d).1 = .error .noDocument ↔
      use.needsFile = true ∧ d.path? = none) := by
  intro d
  have hstart : ∀ path, (⟨files, none⟩ : Document).path? = some path ↔ OpenedLast path [] :=
    fun _ => iff_of_false nofun not_since_nil
  exact ⟨fun _ _ => eq_of_error, fun path => path?_of_uses hstart uses path, fun _ => noDocument_iff⟩

/-- A file has been opened, and another one could not be. -/
theorem failed_use_changes_nothing_missing :
    let files : FileTree := ⟨[(["a.ram"], .file "A".toUTF8)]⟩
    let d := (⟨files, none⟩ : Document).after [.openFile "a.ram", .openFile "b.ram"]
    d.path? = some "a.ram" ∧ OpenedLast "a.ram"
      ((⟨files, none⟩ : Document).succeeded [.openFile "a.ram", .openFile "b.ram"]) ∧
    (Use.read.perform d).1 ≠ .error .noDocument := by
  intro files d
  obtain ⟨-, hpath, hnone⟩ := failed_use_changes_nothing files [.openFile "a.ram", .openFile "b.ram"]
  have hopen : d.path? = some "a.ram" := by decide +kernel
  refine ⟨hopen, (hpath "a.ram").mp hopen, fun hread => ?_⟩
  cases hopen.symm.trans ((hnone .read).mp hread).2

end AccumulatorMachine.Document
