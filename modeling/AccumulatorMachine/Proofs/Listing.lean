import AccumulatorMachine.Listing
import AccumulatorMachine.Proofs.Text.Words

/-! Which tables can be shown. -/
namespace AccumulatorMachine.Text

theorem trim_eq_self {l : List Char} (hl : ∀ c ∈ l, isBlank c = false) : trim l = l := by
  have hstays (l : List Char) (hl : ∀ c ∈ l, isBlank c = false) : l.dropWhile isBlank = l := by
    cases l with
    | nil => rfl
    | cons c l => exact List.dropWhile_cons_of_neg (by simp [hl c])
  rw [trim, trimLeft, hstays l hl, trimRight, hstays _ (by simpa using hl), List.reverse_reverse]

end AccumulatorMachine.Text

namespace AccumulatorMachine.Listing

/-! ### Widths of columns -/

/-- Every width has one in the same place that is no less. -/
def Covers (ws vs : List Nat) : Prop :=
  ∀ (i v : Nat), vs[i]? = some v → ∃ w, ws[i]? = some w ∧ v ≤ w

theorem Covers.refl (ws : List Nat) : Covers ws ws := fun _ v h => ⟨v, h, Nat.le_refl v⟩

theorem Covers.trans {us vs ws : List Nat} (h : Covers us vs) (h' : Covers vs ws) : Covers us ws := by
  intro i w hw
  obtain ⟨v, hv, hle⟩ := h' i w hw
  obtain ⟨u, hu, hle'⟩ := h i v hv
  exact ⟨u, hu, Nat.le_trans hle hle'⟩

theorem covers_cons {w v : Nat} {ws vs : List Nat} (hle : v ≤ w) (h : Covers ws vs) :
    Covers (w :: ws) (v :: vs) := by
  intro i u hu
  cases i with
  | zero =>
    cases hu
    exact ⟨w, rfl, hle⟩
  | succ i => exact h i u hu

theorem covers_maxWidths (ws vs : List Nat) :
    Covers (maxWidths ws vs) ws ∧ Covers (maxWidths ws vs) vs := by
  fun_induction maxWidths ws vs with
  | case1 w ws v vs ih =>
    exact ⟨covers_cons (Nat.le_max_left w v) ih.1, covers_cons (Nat.le_max_right w v) ih.2⟩
  | case2 vs => exact ⟨nofun, .refl vs⟩
  | case3 ws => exact ⟨.refl ws, nofun⟩

theorem covers_foldl (widths : List Nat) (t : Table) :
    let total := t.foldl (fun widths row => maxWidths widths (row.map String.length)) widths
    Covers total widths ∧ ∀ row ∈ t, Covers total (row.map String.length) := by
  induction t generalizing widths with
  | nil => exact ⟨.refl widths, nofun⟩
  | cons row t ih =>
    obtain ⟨hwidths, hrows⟩ := ih (maxWidths widths (row.map String.length))
    obtain ⟨hfirst, hrow⟩ := covers_maxWidths widths (row.map String.length)
    exact ⟨hwidths.trans hfirst, List.forall_mem_cons.mpr ⟨hwidths.trans hrow, hrows⟩⟩

theorem le_of_mem_maxWidths {n : Nat} {ws vs : List Nat} (hws : ∀ w ∈ ws, w ≤ n)
    (hvs : ∀ v ∈ vs, v ≤ n) : ∀ u ∈ maxWidths ws vs, u ≤ n := by
  fun_induction maxWidths ws vs with
  | case1 w ws v vs ih =>
    obtain ⟨hw, hws⟩ := List.forall_mem_cons.mp hws
    obtain ⟨hv, hvs⟩ := List.forall_mem_cons.mp hvs
    exact List.forall_mem_cons.mpr ⟨Nat.max_le.mpr ⟨hw, hv⟩, ih hws hvs⟩
  | case2 vs => exact hvs
  | case3 ws => exact hws

theorem le_of_mem_foldl {n : Nat} {widths : List Nat} {t : Table} (hwidths : ∀ w ∈ widths, w ≤ n)
    (ht : ∀ row ∈ t, ∀ cell ∈ row, cell.length ≤ n) :
    ∀ w ∈ t.foldl (fun widths row => maxWidths widths (row.map String.length)) widths, w ≤ n := by
  induction t generalizing widths with
  | nil => exact hwidths
  | cons row t ih =>
    obtain ⟨hrow, ht⟩ := List.forall_mem_cons.mp ht
    exact ih (le_of_mem_maxWidths hwidths (by simpa using hrow)) ht

/-! ### Tables -/

/-- A table can be shown if none of its cells is too wide. -/
theorem tableFits_iff (t : Table) :
    tableFits t = true ↔ ∀ row ∈ t, ∀ cell ∈ row, cell.length ≤ maxWidth := by
  simp only [tableFits, rowFits, List.all_eq_true, decide_eq_true_eq]
  constructor
  · intro h row hrow cell hcell
    obtain ⟨i, hi, rfl⟩ := List.mem_iff_getElem.mp hcell
    obtain ⟨w, hw, hle⟩ := (covers_foldl [] t).2 row hrow i row[i].length (by simp [hi])
    refine Nat.le_trans hle (h row hrow w ?_)
    exact List.mem_of_getElem? (i := i) (by rw [List.getElem?_take_of_lt hi]; exact hw)
  · intro h row _ w hw
    exact le_of_mem_foldl (fun _ hmem => absurd hmem List.not_mem_nil) h w (List.mem_of_mem_take hw)

/-- Whether a program can be shown does not depend on where the marker is. -/
theorem tableFits_programTable (p : Program) (pc : Int) :
    tableFits (programTable p pc) = programFits p := by
  have hmarker (marked : Prop) [Decidable marked] :
      (if marked then ">" else "").length ≤ maxWidth := by
    split <;> decide
  have hrow (pc : Int) (line : String) (index : Nat) :
      (∀ cell ∈ programRow pc line index, cell.length ≤ maxWidth) ↔
        ∀ cell ∈ (programRow pc line index).tail, cell.length ≤ maxWidth := by
    rw [programRow, List.forall_mem_cons, List.tail_cons]
    exact and_iff_right (hmarker _)
  rw [Bool.eq_iff_iff, programFits, tableFits_iff, tableFits_iff]
  simp only [programTable, List.forall_mem_map, hrow]
  rfl

/-- A line that is one word is shown as it is. -/
theorem programRow_word {l : List Char} (hl : ∀ c ∈ l, Text.isBlank c = false) (hnil : l ≠ [])
    (pc : Int) (index : Nat) :
    String.ofList l ∈ programRow pc (String.ofList l) index := by
  have htabs : l.filter (· ≠ '\t') = l := by
    refine List.filter_eq_self.mpr fun c hc => ?_
    rw [decide_eq_true_eq]
    rintro rfl
    exact absurd (hl _ hc) (by decide)
  have hmalformed : Instruction.ofLine (String.ofList l) = .error (.malformed 1) := by
    rw [Instruction.ofLine, Instruction.tokens, String.toList_ofList, htabs,
      (Text.Word.mk hnil hl).words_eq]
    rfl
  simp [programRow, hmalformed, Text.trim_eq_self hl]

end AccumulatorMachine.Listing
