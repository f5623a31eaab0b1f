import AccumulatorMachine.Document
import AccumulatorMachine.Proofs.FileTree
import AccumulatorMachine.Proofs.Text.Lines
import Mathlib.Logic.Function.Iterate

/-! What becomes of the lines of a file that is opened and saved again as it was read. -/
namespace AccumulatorMachine

open Text

theorem Program.ofText_eq_iff {text text' : String} :
    ofText text = ofText text' ↔ lines text.toList = lines text'.toList := by
  have hinjective : Function.Injective String.ofList := fun l l' h => by
    simpa using congrArg String.toList h
  exact (List.map_injective_iff.mpr hinjective).eq_iff

namespace Document

/-! ### Texts -/

theorem toList_normalize (text : String) :
    (normalize text).toList = joinLines (lines text.toList) := by
  simp [normalize, Program.toText, Program.ofText, Function.comp_def]

theorem lines_normalize (text : String) :
    lines (normalize text).toList = resplit (lines text.toList) := by
  rw [toList_normalize, lines_joinLines_lines]

theorem lines_iterate_normalize (text : String) (n : Nat) :
    lines (normalize^[n] text).toList = resplit^[n] (lines text.toList) := by
  induction n with
  | zero => rfl
  | succ n ih => rw [Function.iterate_succ_apply', Function.iterate_succ_apply', lines_normalize, ih]

theorem normalize_normalize_eq_iff (text : String) :
    normalize (normalize text) = normalize text ↔
      Resplits (lines text.toList) ∨ lines text.toList = [[]] := by
  rw [← joinLines_resplit_eq_iff fun _ => feed_notMem_of_mem_lines, ← lines_normalize,
    ← toList_normalize, ← toList_normalize]
  exact String.toList_inj.symm

/-! ### Files -/

/-- The path leads to a file, and this is its text. -/
structure Opens (files : FileTree) (path text : String) : Prop where
  isFile : files.isFile path = true
  readText : files.readText path = .ok text

theorem Opens.openFile {d : Document} {path text : String} (h : Opens d.files path text) :
    d.openFile path = (.ok (normalize text), { d with path? := some path }) := by
  simp [Document.openFile, loadFile, load, h.isFile, h.readText, Except.map]

theorem Opens.read {d : Document} {path text : String} (h : Opens d.files path text)
    (hpath : d.path? = some path) : d.read = .ok (normalize text) := by
  simp [Document.read, load, hpath, h.readText, Except.map, Except.mapError]

theorem opens_of_openFile {d d' : Document} {path text : String}
    (h : d.openFile path = (.ok text, d')) :
    ∃ t, Opens d.files path t ∧ text = normalize t ∧ d' = { d with path? := some path } := by
  by_cases hfile : d.files.isFile path = true
  · cases ht : d.files.readText path with
    | ok t =>
      have hopens : Opens d.files path t := ⟨hfile, ht⟩
      cases hopens.openFile.symm.trans h
      exact ⟨t, hopens, rfl, rfl⟩
    | error e => simp [Document.openFile, loadFile, load, hfile, ht, Except.map] at h
  · simp [Document.openFile, loadFile, hfile] at h

theorem decode_toUTF8 (path text : String) : FileTree.decode path text.toUTF8 = .ok text := by
  have hvalid : text.toByteArray.IsValidUTF8 := text.isValidUTF8
  simp [FileTree.decode, String.fromUTF8?, hvalid, String.fromUTF8]

/-- A file takes any text, and keeps it. -/
theorem Opens.exists_writeText {files : FileTree} {path text : String} (h : Opens files path text)
    (text' : String) : ∃ files', files.writeText path text' = .ok files' ∧ Opens files' path text' := by
  obtain ⟨l, content, hfind⟩ := FileTree.isFile_iff.mp h.isFile
  have hwrite : files.write path text'.toUTF8 = .ok (files.put l (.file text'.toUTF8)) := by
    simp only [FileTree.write, hfind]
  refine ⟨_, by rw [FileTree.writeText, hwrite]; rfl, ?_⟩
  obtain ⟨l', hfind'⟩ := FileTree.find_of_write hwrite
  refine ⟨FileTree.isFile_iff.mpr ⟨l', _, hfind'⟩, ?_⟩
  simp only [FileTree.readText, FileTree.read, hfind', decode_toUTF8]

theorem Opens.exists_save {d : Document} {path text : String} (h : Opens d.files path text)
    (hpath : d.path? = some path) (text' : String) :
    ∃ d', d.save text' = (.ok (), d') ∧ d'.path? = some path ∧ Opens d'.files path text' := by
  obtain ⟨files, hwrite, hopens⟩ := h.exists_writeText text'
  exact ⟨{ d with files }, by simp only [Document.save, hpath, hwrite], hpath, hopens⟩

/-! ### Opening and saving -/

/-- Opens a file and saves it as it was read. -/
def resave (path : String) (d : Document) : Document :=
  match d.openFile path with
  | (.ok text, d) => (d.save text).2
  | (.error _, d) => d

theorem Opens.resave {d : Document} {path text : String} (h : Opens d.files path text) :
    Opens (d.resave path).files path (normalize text) := by
  obtain ⟨d', hsave, -, hopens⟩ := Opens.exists_save (d := { d with path? := some path }) h rfl
    (normalize text)
  simp only [Document.resave, h.openFile, hsave]
  exact hopens

theorem Opens.resave_iterate {d : Document} {path text : String} (h : Opens d.files path text)
    (n : Nat) : Opens ((Document.resave path)^[n] d).files path (normalize^[n] text) := by
  induction n with
  | zero => exact h
  | succ n ih =>
    rw [Function.iterate_succ_apply', Function.iterate_succ_apply']
    exact ih.resave

/-- A file that is opened and saved as it was read loses the return at the end of every line but the
last, and the last line if that is empty. It keeps its lines if there is nothing to lose, and then
for good. -/
theorem resaved_lines_kept_iff {d d' : Document} {path text opened : String}
    (htext : d.files.readText path = .ok text) (hopen : d.openFile path = (.ok opened, d')) :
    lines opened.toList = resplit (lines text.toList) ∧
      (Program.ofText opened = Program.ofText text ↔ Resplits (lines text.toList)) ∧
      (∃ d'', d'.save opened = (.ok (), d'') ∧ d''.read = .ok (normalize opened) ∧
        d''.openFile path = (.ok (normalize opened), d'')) ∧
      (normalize opened = opened ↔ Resplits (lines text.toList) ∨ lines text.toList = [[]]) ∧
      ∀ n, ∃ saved, ((resave path)^[n] d).files.readText path = .ok saved ∧
        lines saved.toList = resplit^[n] (lines text.toList) ∧
        (Resplits (lines text.toList) →
          Program.ofText saved = Program.ofText text ∧ (0 < n → saved = opened)) := by
  obtain ⟨t, hopens, rfl, rfl⟩ := opens_of_openFile hopen
  obtain rfl : t = text := Except.ok.inj (hopens.readText.symm.trans htext)
  refine ⟨lines_normalize t, ?_, ?_, normalize_normalize_eq_iff t, fun n => ?_⟩
  · rw [Program.ofText_eq_iff, lines_normalize, resplit_eq_self_iff]
  · obtain ⟨d'', hsave, hpath, hsaved⟩ := Opens.exists_save
      (d := { d with path? := some path }) hopens rfl (normalize t)
    refine ⟨d'', hsave, hsaved.read hpath, ?_⟩
    rw [hsaved.openFile, ← hpath]
  · refine ⟨normalize^[n] t, (hopens.resave_iterate n).readText, lines_iterate_normalize t n,
      fun hkept => ⟨?_, fun hpos => ?_⟩⟩
    · rw [Program.ofText_eq_iff, lines_iterate_normalize]
      exact Function.iterate_fixed (resplit_eq_self_iff.mpr hkept) n
    · obtain ⟨n, rfl⟩ := Nat.exists_eq_succ_of_ne_zero (Nat.ne_of_gt hpos)
      rw [Function.iterate_succ_apply]
      exact Function.iterate_fixed ((normalize_normalize_eq_iff t).mpr (.inl hkept)) n

/-- A directory with one file. -/
def ofFile (text : String) : Document := ⟨⟨[(["a.ram"], .file text.toUTF8)]⟩, none⟩

theorem opens_ofFile (text : String) : Opens (ofFile text).files "a.ram" text := by
  have hnames : (ofFile text).files.Names "a.ram" [] "a.ram" :=
    ⟨by decide, by decide, by decide +kernel, ⟨by decide, by decide, by decide, by decide⟩, [],
      by decide +kernel, rfl⟩
  have hfind : (ofFile text).files.find "a.ram" = .ok (.file ["a.ram"] text.toUTF8) := hnames.find_eq
  refine ⟨FileTree.isFile_iff.mpr ⟨_, _, hfind⟩, ?_⟩
  simp only [FileTree.readText, FileTree.read, hfind, decode_toUTF8]

theorem resaved_lines_kept_iff_returns :
    (ofFile "SET 1\r\nHLT 0\n").files.readText "a.ram" = .ok "SET 1\r\nHLT 0\n" ∧
      ∃ d, (ofFile "SET 1\r\nHLT 0\n").openFile "a.ram" = (.ok "SET 1\nHLT 0", d) ∧
      Program.ofText "SET 1\nHLT 0" = Program.ofText "SET 1\r\nHLT 0\n" ∧
      ∃ d', d.save "SET 1\nHLT 0" = (.ok (), d') ∧ d'.read = .ok "SET 1\nHLT 0" := by
  have hopens := opens_ofFile "SET 1\r\nHLT 0\n"
  have hopened : normalize "SET 1\r\nHLT 0\n" = "SET 1\nHLT 0" := by decide +kernel
  have hopen := hopens.openFile
  rw [hopened] at hopen
  obtain ⟨-, hkept, ⟨d', hsave, hread, -⟩, hstable, -⟩ :=
    resaved_lines_kept_iff hopens.readText hopen
  have hresplits : Resplits (lines "SET 1\r\nHLT 0\n".toList) :=
    resplit_eq_self_iff.mp (by decide +kernel)
  rw [hstable.mpr (.inl hresplits)] at hread
  exact ⟨hopens.readText, _, hopen, hkept.mpr hresplits, d', hsave, hread⟩

/-- An empty line at the end gets lost, and another one when the file is saved and opened again. -/
theorem resaved_loses_line :
    ¬ ∀ (d d' : Document) (path text opened : String), d.files.readText path = .ok text →
      d.openFile path = (.ok opened, d') →
        Program.ofText opened = Program.ofText text ∧
          ∀ d'', d'.save opened = (.ok (), d'') → d''.read = .ok opened := by
  intro h
  have hopens := opens_ofFile "A\n\n"
  have hopened : normalize "A\n\n" = "A\n" := by decide +kernel
  have hopen := hopens.openFile
  rw [hopened] at hopen
  have hsame := (h _ _ "a.ram" "A\n\n" "A\n" hopens.readText hopen).1
  rw [Program.ofText_eq_iff] at hsame
  revert hsame
  decide +kernel

end Document

end AccumulatorMachine
