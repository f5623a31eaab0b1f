import AccumulatorMachine.FileTree.Access
import Mathlib.Data.List.Basic

/-! Where in a tree a path leads, apart from what is there. It depends on the directories of the tree
only. -/
namespace AccumulatorMachine

/-- The place of a file, or of one that could be made. -/
def Found.location? : Found → Option Location
  | .file l _ | .vacant l => some l
  | .directory => none

namespace FileTree

/-! ### Entries -/

theorem lookup_filter_bne {α β : Type} [BEq α] [LawfulBEq α] (l k : α) (entries : List (α × β)) :
    (entries.filter (·.1 != l)).lookup k = if k == l then none else entries.lookup k := by
  induction entries with
  | nil => simp
  | cons e entries ih =>
    obtain ⟨key, value⟩ := e
    by_cases hkey : key = l
    · subst hkey
      cases hk : k == key <;> simp only [List.filter_cons, bne_self_eq_false, List.lookup_cons, ih, hk,
        Bool.false_eq_true, if_false, if_true]
    · simp only [List.filter_cons, bne_iff_ne, ne_eq, hkey, not_false_eq_true, if_true,
        List.lookup_cons, ih]
      split
      · next hk => simp [beq_iff_eq.mp hk, hkey]
      · rfl

theorem node?_put (t : FileTree) {l : Location} (hl : l ≠ []) (node : Node) (k : Location) :
    (t.put l node).node? k = if k = l then some node else t.node? k := by
  by_cases hk : k = l
  · simp [node?, put, hk, hl]
  · have : (k == l) = false := beq_eq_false_iff_ne.mpr hk
    simp only [node?, put, List.lookup_cons, lookup_filter_bne, this, hk, Bool.false_eq_true, if_false]

theorem node?_erase (t : FileTree) {l : Location} (hl : l ≠ []) (k : Location) :
    (t.erase l).node? k = if k = l then none else t.node? k := by
  simp only [node?, erase, lookup_filter_bne, beq_iff_eq]
  by_cases hk : k = l
  · simp [hk, hl]
  · simp [hk]

/-- What is at a location of a directory. -/
def entry (t : FileTree) (l : Location) : Found :=
  match t.node? l with
  | none => .vacant l
  | some (.file content) => .file l content
  | some .directory => .directory

theorem entry_of_location? {t : FileTree} {l k : Location} (h : (t.entry l).location? = some k) :
    k = l := by
  unfold entry at h
  split at h <;> simp_all [Found.location?]

theorem node?_of_entry_file {t : FileTree} {l k : Location} {content : ByteArray}
    (h : t.entry l = .file k content) : k = l ∧ t.node? l = some (.file content) := by
  unfold entry at h
  split at h <;> simp_all

/-- The directories are the same ones. -/
def SameDirectories (t t' : FileTree) : Prop :=
  ∀ k, t.node? k = some .directory ↔ t'.node? k = some .directory

theorem sameDirectories_put {t : FileTree} {l : Location} (hl : l ≠ [])
    (hdir : t.node? l ≠ some .directory) (content : ByteArray) :
    SameDirectories t (t.put l (.file content)) := by
  intro k
  rw [node?_put t hl]
  split
  · next hk => simp [hk, hdir]
  · rfl

theorem sameDirectories_erase {t : FileTree} {l : Location} (hl : l ≠ [])
    (hdir : t.node? l ≠ some .directory) : SameDirectories t (t.erase l) := by
  intro k
  rw [node?_erase t hl]
  split
  · next hk => simp [hk, hdir]
  · rfl

/-! ### The directory of a path -/

/-- A piece of a path that leads to an entry of a directory. -/
structure IsName (piece : String) : Prop where
  ne_empty : piece ≠ ""
  ne_here : piece ≠ "."
  ne_up : piece ≠ ".."
  size_le : piece.utf8ByteSize ≤ maxName

/-- The directory that the pieces of a path lead to, with none for one outside of the tree. -/
def enter (t : FileTree) : Option Location → List String → Except PathError (Option Location)
  | place, [] => .ok place
  | place, piece :: rest =>
    if piece = "" ∨ piece = "." then t.enter place rest
    else if piece = ".." then
      t.enter (place.bind fun l => if l.isEmpty then none else some l.dropLast) rest
    else if maxName < piece.utf8ByteSize then .error .nameTooLong
    else
      match place with
      | none => .error .missing
      | some l =>
        match t.node? (l ++ [piece]) with
        | none => .error .missing
        | some .directory => t.enter (some (l ++ [piece])) rest
        | some (.file _) => .error .notDirectory

/-- Looks up a name in a directory. -/
def look (t : FileTree) (name : String) : Option Location → Except PathError Found
  | none => .error .missing
  | some dir => .ok (t.entry (dir ++ [name]))

/-- A path that ends in a name is followed to its directory first. -/
theorem follow_concat (t : FileTree) {name : String} (hname : IsName name) (before : List String)
    (place : Option Location) :
    t.follow place (before ++ [name]) = (t.enter place before).bind (t.look name) := by
  fun_induction enter t place before with
  | case1 place =>
    have hsize : ¬ maxName < name.utf8ByteSize := by have := hname.size_le; omega
    cases place with
    | none => simp [follow, look, hname.ne_empty, hname.ne_here, hname.ne_up, hsize, Except.bind]
    | some l =>
      simp only [List.nil_append, follow, hname.ne_empty, hname.ne_here, hname.ne_up, hsize, look,
        entry, Except.bind]
      cases t.node? (l ++ [name]) with
      | none => rfl
      | some node => cases node <;> rfl
  | case2 place piece rest hpiece ih => simp [follow, hpiece, ih]
  | case3 place rest hup ih =>
    simp only [List.cons_append, follow, hup, if_false, if_true]
    exact ih
  | case4 place piece rest hpiece hup hsize => simp [follow, hpiece, hup, hsize, Except.bind]
  | case5 piece rest hpiece hup hsize => simp [follow, hpiece, hup, hsize, Except.bind]
  | case6 piece rest hpiece hup hsize l hnode =>
    simp [follow, hpiece, hup, hsize, hnode, Except.bind]
  | case7 piece rest hpiece hup hsize l hnode ih => simp [follow, hpiece, hup, hsize, hnode, ih]
  | case8 piece rest hpiece hup hsize l content hnode =>
    simp [follow, hpiece, hup, hsize, hnode, Except.bind]

theorem enter_none {t : FileTree} {pieces : List String} {place : Option Location}
    (h : t.enter none pieces = .ok place) : place = none := by
  induction pieces with
  | nil => exact (Except.ok.inj h).symm
  | cons piece rest ih =>
    have h : (if piece = "" ∨ piece = "." then t.enter none rest
      else if piece = ".." then t.enter none rest
      else if maxName < piece.utf8ByteSize then .error .nameTooLong
      else .error .missing) = .ok place := h
    split at h
    · exact ih h
    · split at h
      · exact ih h
      · split at h <;> cases h

theorem enter_append (t : FileTree) (before after : List String) (place : Option Location) :
    t.enter place (before ++ after) = (t.enter place before).bind (t.enter · after) := by
  fun_induction enter t place before with
  | case1 place => rfl
  | case2 place piece rest hpiece ih => simp [enter, hpiece, ih]
  | case3 place rest hup ih =>
    simp only [List.cons_append, enter, hup, if_false, if_true]
    exact ih
  | case4 place piece rest hpiece hup hsize => simp [enter, hpiece, hup, hsize, Except.bind]
  | case5 piece rest hpiece hup hsize => simp [enter, hpiece, hup, hsize, Except.bind]
  | case6 piece rest hpiece hup hsize l hnode =>
    simp [enter, hpiece, hup, hsize, hnode, Except.bind]
  | case7 piece rest hpiece hup hsize l hnode ih => simp [enter, hpiece, hup, hsize, hnode, ih]
  | case8 piece rest hpiece hup hsize l content hnode =>
    simp [enter, hpiece, hup, hsize, hnode, Except.bind]

/-- A last piece that leads nowhere makes no difference. -/
theorem enter_concat_nowhere (t : FileTree) (before : List String) (place : Option Location)
    {piece : String} (hpiece : piece = "" ∨ piece = ".") :
    t.enter place (before ++ [piece]) = t.enter place before := by
  rw [enter_append]
  cases t.enter place before with
  | error e => rfl
  | ok place => exact if_pos hpiece

theorem enter_congr {t t' : FileTree} (h : SameDirectories t t') {pieces : List String}
    {place place' : Option Location} (henter : t.enter place pieces = .ok place') :
    t'.enter place pieces = .ok place' := by
  fun_induction enter t place pieces with
  | case1 place => exact henter
  | case2 place piece rest hpiece ih => simpa [enter, hpiece] using ih henter
  | case3 place rest hup ih =>
    simp only [enter, hup, if_false, if_true]
    exact ih henter
  | case4 | case5 | case6 | case8 => cases henter
  | case7 piece rest hpiece hup hsize l hnode ih =>
    simpa [enter, hpiece, hup, hsize, (h _).mp hnode] using ih henter

/-- Only a path that ends in a name leads to a file, or to where one could be. -/
theorem exists_concat_of_follow {t : FileTree} {place : Option Location} {pieces : List String}
    {found : Found} {l : Location} (h : t.follow place pieces = .ok found)
    (hl : found.location? = some l) : ∃ before name, IsName name ∧ pieces = before ++ [name] := by
  have extend : ∀ {piece : String} {rest : List String},
      (∃ before name, IsName name ∧ rest = before ++ [name]) →
        ∃ before name, IsName name ∧ piece :: rest = before ++ [name] := by
    rintro piece rest ⟨before, name, hname, rfl⟩
    exact ⟨piece :: before, name, hname, rfl⟩
  fun_induction follow t place pieces with
  | case1 place =>
    cases h
    cases hl
  | case2 place piece rest hpiece ih => exact extend (ih h)
  | case3 place rest hup ih => exact extend (ih h)
  | case6 piece rest hpiece hup hsize l' hnode hrest
  | case9 piece rest hpiece hup hsize l' content hnode hrest =>
    rw [not_or] at hpiece
    exact ⟨[], piece, ⟨hpiece.1, hpiece.2, hup, by omega⟩, by simp_all⟩
  | case8 piece rest hpiece hup hsize l' hnode ih => exact extend (ih h)
  | case4 | case5 | case7 | case10 => cases h

/-! ### Paths -/

/-- The path ends in the name of an entry, or of a vacant place, of the directory. -/
structure Names (t : FileTree) (path : String) (dir : Location) (name : String) : Prop where
  ne_empty : path ≠ ""
  size_le : path.utf8ByteSize ≤ maxPath
  relative : path.startsWith "/" = false
  isName : IsName name
  enters : ∃ before, pieces path = before ++ [name] ∧ t.enter (some []) before = .ok (some dir)

theorem Names.find_eq {t : FileTree} {path : String} {dir : Location} {name : String}
    (h : t.Names path dir name) : t.find path = .ok (t.entry (dir ++ [name])) := by
  obtain ⟨before, hpieces, henter⟩ := h.enters
  have hempty : path.isEmpty = false := by simpa using h.ne_empty
  simp only [find, hempty, Bool.false_eq_true, if_false, Nat.not_lt.mpr h.size_le, h.relative,
    hpieces, follow_concat t h.isName, henter, Except.bind, look]

theorem names_of_find {t : FileTree} {path : String} {found : Found} {l : Location}
    (h : t.find path = .ok found) (hl : found.location? = some l) :
    ∃ dir name, l = dir ++ [name] ∧ t.Names path dir name ∧ found = t.entry l := by
  unfold find at h
  split at h
  · cases h
  split at h
  · cases h
  next hempty hsize =>
  obtain ⟨before, name, hname, hpieces⟩ := exists_concat_of_follow h hl
  rw [hpieces, follow_concat t hname] at h
  cases henter : t.enter (if path.startsWith "/" then none else some []) before with
  | error e =>
    rw [henter] at h
    cases h
  | ok place =>
    rw [henter] at h
    cases place with
    | none => cases h
    | some dir =>
      cases h
      obtain rfl := entry_of_location? hl
      have hrelative : path.startsWith "/" = false := by
        by_contra habsolute
        rw [Bool.not_eq_false] at habsolute
        rw [habsolute] at henter
        cases enter_none henter
      rw [hrelative] at henter
      exact ⟨dir, name, rfl, ⟨by simpa using hempty, by omega, hrelative, hname, before, hpieces,
        henter⟩, rfl⟩

theorem Names.congr {t t' : FileTree} (hdirs : SameDirectories t t') {path : String}
    {dir : Location} {name : String} (h : t.Names path dir name) : t'.Names path dir name := by
  obtain ⟨before, hpieces, henter⟩ := h.enters
  exact ⟨h.ne_empty, h.size_le, h.relative, h.isName, before, hpieces, enter_congr hdirs henter⟩

theorem removeFile_of_names {t : FileTree} {path : String} {dir : Location} {name : String}
    {content : ByteArray} (h : t.Names path dir name)
    (hfile : t.node? (dir ++ [name]) = some (.file content)) :
    t.removeFile path = .ok (t.erase (dir ++ [name])) := by
  have hfind : t.find path = .ok (.file (dir ++ [name]) content) := by
    rw [h.find_eq, entry, hfile]
  simp [removeFile, remove, hfind, Except.mapError]

/-- What a copy is made of, and where it is put. -/
structure Copies (t : FileTree) (source target : String) (dir : Location) (name : String)
    (dir' : Location) (name' : String) (content : ByteArray) : Prop where
  source : t.Names source dir name
  file : t.node? (dir ++ [name]) = some (.file content)
  target : t.Names target dir' name'
  target_ne_directory : t.node? (dir' ++ [name']) ≠ some .directory

theorem write_eq_ok {t t' : FileTree} {path : String} {content : ByteArray}
    (h : t.write path content = .ok t') :
    ∃ dir name, t.Names path dir name ∧ t.node? (dir ++ [name]) ≠ some .directory ∧
      t' = t.put (dir ++ [name]) (.file content) := by
  have main : ∀ {found : Found} {l : Location}, t.find path = .ok found →
      found.location? = some l → ∃ dir name, t.Names path dir name ∧
        t.node? (dir ++ [name]) ≠ some .directory ∧
          t.put l (.file content) = t.put (dir ++ [name]) (.file content) := by
    intro found l hfind hl
    obtain ⟨dir, name, rfl, hnames, rfl⟩ := names_of_find hfind hl
    refine ⟨dir, name, hnames, fun hdir => ?_, rfl⟩
    rw [entry, hdir] at hl
    cases hl
  unfold write at h
  split at h
  · next l c hfind =>
    cases h
    exact main hfind rfl
  · next l hfind =>
    cases h
    exact main hfind rfl
  · cases h
  · cases h

theorem copy_eq_ok {t t' : FileTree} {source target : String}
    (h : t.copy source target = .ok t') :
    ∃ dir name dir' name' content, t.Copies source target dir name dir' name' content ∧
      t' = t.put (dir' ++ [name']) (.file content) := by
  unfold copy at h
  split at h
  · next l content hfind =>
    obtain ⟨dir, name, rfl, hsource, hentry⟩ := names_of_find hfind rfl
    cases hwrite : t.write target content with
    | error e =>
      rw [hwrite] at h
      cases h
    | ok t'' =>
      rw [hwrite] at h
      cases h
      obtain ⟨dir', name', htarget, hdir, rfl⟩ := write_eq_ok hwrite
      exact ⟨dir, name, dir', name', content,
        ⟨hsource, (node?_of_entry_file hentry.symm).2, htarget, hdir⟩, rfl⟩
  all_goals cases h

theorem isFile_iff {t : FileTree} {path : String} :
    t.isFile path = true ↔ ∃ l content, t.find path = .ok (.file l content) := by
  unfold isFile
  split <;> simp_all

/-- A file is where it has been written. -/
theorem find_of_write {t t' : FileTree} {path : String} {content : ByteArray}
    (h : t.write path content = .ok t') : ∃ l, t'.find path = .ok (.file l content) := by
  obtain ⟨dir, name, hnames, hdir, rfl⟩ := write_eq_ok h
  have hsame := sameDirectories_put (by simp) hdir content
  refine ⟨dir ++ [name], ?_⟩
  rw [(hnames.congr hsame).find_eq, entry, node?_put t (by simp), if_pos rfl]

end FileTree

end AccumulatorMachine
