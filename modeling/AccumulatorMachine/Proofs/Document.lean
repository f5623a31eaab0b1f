import AccumulatorMachine.Document
import AccumulatorMachine.Proofs.FileTree
import Mathlib.Data.List.DropRight
import Mathlib.Tactic.Common

/-! What a deletion takes away: the open file, and a file at the place of its backup. -/
namespace AccumulatorMachine.Document

open FileTree

/-! ### The name of the backup -/

theorem eq_of_splitName (name : List Char) :
    name = (splitName name).1 ++
      match (splitName name).2 with
      | none => []
      | some extension => '.' :: extension := by
  by_cases hstem : ((name.reverse.dropWhile (· != '.')).drop 1).reverse.isEmpty
  · simp only [splitName, hstem, if_true, List.append_nil]
  · cases hdrop : name.reverse.dropWhile (· != '.') with
    | nil => simp [hdrop] at hstem
    | cons dot rest =>
      have hdot : dot = '.' := by
        have := List.head?_dropWhile_not (· != '.') name.reverse
        simpa [hdrop] using this
      have hname := List.takeWhile_append_dropWhile (p := (· != '.')) (l := name.reverse)
      rw [hdrop, hdot] at hname hstem
      have hreversed := congrArg List.reverse hname
      simp only [splitName, hdrop, hdot, hstem]
      simpa using hreversed.symm

/-- The backup is named by putting something into the name. -/
theorem backupName_eq (name : List Char) : ∃ stem rest,
    name = stem ++ rest ∧ backupName name = stem ++ "-backup".toList ++ rest := by
  have hname := eq_of_splitName name
  unfold backupName
  split
  · next stem h =>
    rw [h] at hname
    exact ⟨stem, [], hname, by simp⟩
  · next stem extension h =>
    rw [h] at hname
    exact ⟨stem, '.' :: extension, hname, by simp⟩

theorem backupName_ne (name : List Char) : backupName name ≠ name := by
  obtain ⟨stem, rest, hname, hbackup⟩ := backupName_eq name
  intro h
  have hlength := congrArg List.length (hbackup.symm.trans (h.trans hname))
  simp only [List.length_append, String.length_toList] at hlength
  have : "-backup".length = 7 := rfl
  omega

theorem slash_notMem_backupName {name : List Char} (h : '/' ∉ name) : '/' ∉ backupName name := by
  obtain ⟨stem, rest, rfl, hbackup⟩ := backupName_eq name
  rw [List.mem_append, not_or] at h
  simp [hbackup, h]

/-! ### The path of the backup -/

theorem notMem_of_mem_splitOn {α : Type} [BEq α] [LawfulBEq α] {a : α} {l piece : List α}
    (h : piece ∈ l.splitOn a) : a ∉ piece := by
  induction l generalizing piece with
  | nil => simp_all
  | cons x l ih =>
    rw [List.splitOn_cons_eq_if_modifyHead] at h
    split at h
    · rcases List.mem_cons.mp h with rfl | h
      · simp
      · exact ih h
    · next hx =>
      cases hsplit : l.splitOn a with
      | nil => exact absurd hsplit (List.splitOn_ne_nil a l)
      | cons head rest =>
        rw [hsplit] at h
        rcases List.mem_cons.mp h with rfl | h
        · have hhead := ih (hsplit ▸ List.mem_cons_self)
          simp only [beq_iff_eq] at hx
          simp [hhead, Ne.symm hx]
        · exact ih (hsplit ▸ List.mem_cons_of_mem head h)

theorem trimPieces_concat (ps : List (List Char)) (p : List Char) :
    trimPieces (ps ++ [p]) = if p = [] ∨ p = ['.'] then trimPieces ps else ps ++ [p] := by
  have h := List.rdropWhile_concat (fun p : List Char => p.isEmpty || p == ['.']) ps p
  simpa [List.rdropWhile, trimPieces] using h

theorem trimPieces_subset (ps : List (List Char)) : trimPieces ps ⊆ ps :=
  (List.rdropWhile_prefix (fun p : List Char => p.isEmpty || p == ['.']) ps).subset

/-- Trimmed pieces lead to the same directory. -/
theorem enter_trimPieces (t : FileTree) (ps : List (List Char)) (place : Option Location) :
    t.enter place ((trimPieces ps).map String.ofList) = t.enter place (ps.map String.ofList) := by
  induction ps using List.reverseRecOn with
  | nil => rfl
  | append_singleton ps p ih =>
    rw [trimPieces_concat]
    split
    · next hp =>
      rw [ih, List.map_append, List.map_singleton, enter_concat_nowhere]
      exact hp.imp (by rintro rfl; rfl) (by rintro rfl; rfl)
    · rfl

/-- The path of the backup has the name of the backup in place of the name of the file. -/
theorem pieces_backupPath {path name : String} {before : List String} (hname : IsName name)
    (hpieces : pieces path = before ++ [name]) : ∃ ps : List (List Char),
      before = ps.map String.ofList ∧
      pieces (backupPath path) =
        (trimPieces ps).map String.ofList ++ [String.ofList (backupName name.toList)] := by
  obtain ⟨ps, qs, hsplit, hps, hqs⟩ := List.map_eq_append_iff.mp hpieces
  obtain ⟨n, rfl, hn⟩ := List.map_eq_singleton_iff.mp hqs
  have hn : n = name.toList := by rw [← hn, String.toList_ofList]
  refine ⟨ps, hps.symm, ?_⟩
  have hslash : ∀ piece ∈ ps ++ [n], '/' ∉ piece := by
    intro piece hpiece
    rw [← hsplit, ← List.splitOn_eq_splitOnP] at hpiece
    exact notMem_of_mem_splitOn hpiece
  have htrim : trimPieces (ps ++ [n]) = ps ++ [n] := by
    rw [trimPieces_concat, if_neg]
    rintro (h | h)
    · exact hname.ne_empty (by simpa [hn] using h)
    · exact hname.ne_here (by rw [← String.ofList_toList (s := name), ← hn, h])
  have hbackup : ∀ piece ∈ trimPieces ps ++ [backupName n], '/' ∉ piece := by
    intro piece hpiece
    rcases List.mem_append.mp hpiece with hpiece | hpiece
    · exact hslash piece (List.mem_append_left _ (trimPieces_subset ps hpiece))
    · rw [List.mem_singleton.mp hpiece]
      exact slash_notMem_backupName (hslash n (by simp))
  have hpath : backupPath path =
      String.ofList (['/'].intercalate (trimPieces ps ++ [backupName n])) := by
    simp only [backupPath, hsplit, htrim, List.getLast?_concat, List.dropLast_concat]
  rw [hpath, pieces, String.toList_ofList, ← List.splitOn_eq_splitOnP,
    List.splitOn_intercalate '/' hbackup (by simp), List.map_append, List.map_singleton, hn]

theorem names_backupPath {t : FileTree} {path name name' : String} {dir dir' : Location}
    (h : t.Names path dir name) (hbackup : t.Names (backupPath path) dir' name') :
    dir' = dir ∧ name' = String.ofList (backupName name.toList) := by
  obtain ⟨before, hpieces, henter⟩ := h.enters
  obtain ⟨before', hpieces', henter'⟩ := hbackup.enters
  obtain ⟨ps, rfl, hps⟩ := pieces_backupPath h.isName hpieces
  rw [hps] at hpieces'
  obtain ⟨rfl, hname⟩ := List.append_inj' hpieces' rfl
  rw [enter_trimPieces, henter] at henter'
  cases henter'
  exact ⟨rfl, (List.cons.inj hname).1.symm⟩

theorem backup_ne (dir : Location) (name : String) :
    dir ++ [String.ofList (backupName name.toList)] ≠ dir ++ [name] := by
  intro h
  have hname := (List.cons.inj (List.append_cancel_left h)).1
  exact backupName_ne name.toList (by simpa using congrArg String.toList hname)

/-! ### Deletions -/

/-- Once a file has been copied, it and its backup can be removed. -/
theorem deleteCopied_eq {t : FileTree} {path name : String} {dir : Location} {content : ByteArray}
    (hcopies : t.Copies path (backupPath path) dir name
      dir (String.ofList (backupName name.toList)) content) :
    deleteCopied (t.put (dir ++ [String.ofList (backupName name.toList)]) (.file content)) path
        (backupPath path) =
      (.ok (), ⟨((t.put (dir ++ [String.ofList (backupName name.toList)]) (.file content)).erase
        (dir ++ [name])).erase (dir ++ [String.ofList (backupName name.toList)]), none⟩) := by
  have hne := backup_ne dir name
  generalize String.ofList (backupName name.toList) = backup at hne hcopies ⊢
  have hcopied := sameDirectories_put (by simp) hcopies.target_ne_directory content
  have hfile : (t.put (dir ++ [backup]) (.file content)).node? (dir ++ [name]) =
      some (.file content) := by
    rw [node?_put t (by simp), if_neg hne.symm, hcopies.file]
  have hremoved := sameDirectories_erase (t := t.put (dir ++ [backup]) (.file content))
    (l := dir ++ [name]) (by simp) (by simp [hfile])
  have hbackup : ((t.put (dir ++ [backup]) (.file content)).erase (dir ++ [name])).node?
      (dir ++ [backup]) = some (.file content) := by
    rw [node?_erase _ (by simp), if_neg hne, node?_put t (by simp), if_pos rfl]
  rw [deleteCopied, removeFile_of_names (hcopies.source.congr hcopied) hfile]
  simp only [removeFile_of_names ((hcopies.target.congr hcopied).congr hremoved) hbackup]

theorem delete_eq_deleteCopied {d : Document} {path : String} {t : FileTree}
    (hpath : d.path? = some path) (hcopy : d.files.copy path (backupPath path) = .ok t) :
    d.delete = deleteCopied t path (backupPath path) := by
  simp only [delete, hpath, hcopy]

theorem delete_of_copy {d : Document} {path : String} {t : FileTree} (hpath : d.path? = some path)
    (hcopy : d.files.copy path (backupPath path) = .ok t) :
    ∃ dir name content, d.files.find path = .ok (.file (dir ++ [name]) content) ∧
      d.delete.1 = .ok () ∧ d.delete.2.path? = none ∧
      ∀ k, d.delete.2.files.node? k =
        if k = dir ++ [name] ∨ k = dir ++ [String.ofList (backupName name.toList)] then none
        else d.files.node? k := by
  obtain ⟨dir, name, dir', name', content, hcopies, rfl⟩ := copy_eq_ok hcopy
  obtain ⟨rfl, rfl⟩ := names_backupPath hcopies.source hcopies.target
  rw [delete_eq_deleteCopied hpath hcopy, deleteCopied_eq hcopies]
  refine ⟨dir', name, content, ?_, rfl, rfl, fun k => ?_⟩
  · rw [hcopies.source.find_eq, entry, hcopies.file]
  · simp only [node?_erase _ (show dir' ++ [_] ≠ [] by simp),
      node?_put _ (show dir' ++ [_] ≠ [] by simp)]
    by_cases hfile : k = dir' ++ [name] <;> simp [hfile]
    split <;> rfl

/-- A deletion succeeds if the file can be copied aside. -/
theorem delete_eq_ok_iff {d : Document} {path : String} (hpath : d.path? = some path) :
    d.delete.1 = .ok () ↔ ∃ t, d.files.copy path (backupPath path) = .ok t := by
  constructor
  · intro hok
    cases hcopy : d.files.copy path (backupPath path) with
    | ok t => exact ⟨t, rfl⟩
    | error e => simp [delete, hpath, hcopy] at hok
  · rintro ⟨t, hcopy⟩
    obtain ⟨dir, name, content, -, hok, -⟩ := delete_of_copy hpath hcopy
    exact hok

/-- A deletion removes the open file and leaves everything else as it was, unless there is a file
at the place of the backup. -/
theorem delete_removes_open_file {d : Document} {path : String} (hpath : d.path? = some path)
    (hok : d.delete.1 = .ok ()) :
    ∃ dir name content, d.files.find path = .ok (.file (dir ++ [name]) content) ∧
      d.delete.2.path? = none ∧
      (∀ k, d.delete.2.files.node? k =
        if k = dir ++ [name] ∨ k = dir ++ [String.ofList (backupName name.toList)] then none
        else d.files.node? k) ∧
      ((∀ k, k ≠ dir ++ [name] → d.delete.2.files.node? k = d.files.node? k) ↔
        d.files.node? (dir ++ [String.ofList (backupName name.toList)]) = none) := by
  obtain ⟨t, hcopy⟩ := (delete_eq_ok_iff hpath).mp hok
  obtain ⟨dir, name, content, hfind, -, hclosed, hnodes⟩ := delete_of_copy hpath hcopy
  refine ⟨dir, name, content, hfind, hclosed, hnodes, fun hothers => ?_, fun hvacant k hk => ?_⟩
  · rw [← hothers _ (backup_ne dir name), hnodes, if_pos (.inr rfl)]
  · rw [hnodes]
    split
    · next hplace =>
      rw [hplace.resolve_left hk, hvacant]
    · rfl

/-- An open file next to others. -/
def besideOthers (others : List (Location × Node)) : Document :=
  ⟨⟨(["a.ram"], .file "A".toUTF8) :: others⟩, some "a.ram"⟩

theorem find_besideOthers (others : List (Location × Node)) :
    (besideOthers others).files.find "a.ram" = .ok (.file ["a.ram"] "A".toUTF8) := by
  have hnames : (besideOthers others).files.Names "a.ram" [] "a.ram" :=
    ⟨by decide, by decide, by decide +kernel, ⟨by decide, by decide, by decide, by decide⟩, [],
      by decide +kernel, rfl⟩
  exact hnames.find_eq

theorem delete_removes_open_file_alone :
    (besideOthers [(["b.ram"], .file "B".toUTF8)]).path? = some "a.ram" ∧
      (besideOthers [(["b.ram"], .file "B".toUTF8)]).delete.1 = .ok () ∧
      ∀ k, k ≠ ["a.ram"] →
        (besideOthers [(["b.ram"], .file "B".toUTF8)]).delete.2.files.node? k =
          (besideOthers [(["b.ram"], .file "B".toUTF8)]).files.node? k := by
  have hok : (besideOthers [(["b.ram"], .file "B".toUTF8)]).delete.1 = .ok () := by decide +kernel
  obtain ⟨dir, name, content, hfind, -, -, honly⟩ := delete_removes_open_file rfl hok
  rw [find_besideOthers] at hfind
  have hplace : dir ++ [name] = [] ++ ["a.ram"] := by
    injection hfind with hfile
    injection hfile with hplace
    exact hplace.symm
  obtain ⟨rfl, hname⟩ := List.append_inj' hplace rfl
  obtain rfl := List.singleton_inj.mp hname
  exact ⟨rfl, hok, honly.mpr rfl⟩

/-- Another file is lost that has the name of the backup. -/
theorem delete_loses_sibling :
    ¬ ∀ (d : Document) (path : String) (l : Location) (content : ByteArray),
      d.path? = some path → d.files.find path = .ok (.file l content) → d.delete.1 = .ok () →
        ∀ k, k ≠ l → d.delete.2.files.node? k = d.files.node? k := by
  intro h
  have hsame := h (besideOthers [(["a-backup.ram"], .file "B".toUTF8)]) "a.ram" ["a.ram"] "A".toUTF8
    rfl (find_besideOthers _) (by decide +kernel) ["a-backup.ram"] (by decide)
  have hlost : ((besideOthers [(["a-backup.ram"], .file "B".toUTF8)]).delete.2.files.node?
      ["a-backup.ram"]).isSome = false := by decide +kernel
  rw [hsame] at hlost
  cases hlost

end AccumulatorMachine.Document
