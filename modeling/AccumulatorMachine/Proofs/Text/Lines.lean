import AccumulatorMachine.Text.Lines

/-! The lines of a text that has been joined from lines. A return at the end of a line counts to the line
feed behind it, and an empty line at the end is none. -/
namespace AccumulatorMachine.Text

/-- A line without the return at its end. -/
def dropReturn (l : List Char) : List Char := if l.getLast? = some '\r' then l.dropLast else l

/-- What joining the lines and splitting the text again makes of them. -/
def resplit : List (List Char) → List (List Char)
  | [] => []
  | [l] => if l = [] then [] else [l]
  | l :: l' :: ls => dropReturn l :: resplit (l' :: ls)

@[simp] theorem dropReturn_nil : dropReturn [] = [] := rfl

theorem dropReturn_eq_self_iff {l : List Char} : dropReturn l = l ↔ l.getLast? ≠ some '\r' := by
  unfold dropReturn
  split
  · next h =>
    refine iff_of_false (fun heq => ?_) (not_not_intro h)
    have hlength := congrArg List.length heq
    rw [List.length_dropLast] at hlength
    cases l with
    | nil => cases h
    | cons c l => simp at hlength
  · next h => exact iff_of_true rfl h

theorem dropReturn_cons {c : Char} {l : List Char} (h : l ≠ []) :
    dropReturn (c :: l) = c :: dropReturn l := by
  unfold dropReturn
  rw [List.getLast?_cons_of_ne_nil h, List.dropLast_cons_of_ne_nil h]
  split <;> rfl

/-! ### Splitting -/

theorem lines_cons {c : Char} {cs : List Char} (hc : c ≠ '\n') (h : c = '\r' → cs.head? ≠ some '\n') :
    lines (c :: cs) = consLine c (lines cs) := by
  rw [lines.eq_4 c cs hc]
  rintro cs' rfl rfl
  exact h rfl rfl

/-- A line that a feed ends. -/
theorem lines_append_feed {l : List Char} (hl : '\n' ∉ l) (cs : List Char) :
    lines (l ++ '\n' :: cs) = dropReturn l :: lines cs := by
  induction l with
  | nil => simp
  | cons c l ih =>
    simp only [List.mem_cons, not_or] at hl
    by_cases hreturn : c = '\r' ∧ l = []
    · obtain ⟨rfl, rfl⟩ := hreturn
      rfl
    · have hlines : lines (c :: (l ++ '\n' :: cs)) = consLine c (dropReturn l :: lines cs) := by
        rw [lines_cons (Ne.symm hl.1), ih hl.2]
        rintro rfl
        cases l with
        | nil => exact absurd ⟨rfl, rfl⟩ hreturn
        | cons d l =>
          rintro ⟨⟩
          exact hl.2 List.mem_cons_self
      rw [List.cons_append, hlines, consLine]
      congr 1
      cases l with
      | nil =>
        refine (dropReturn_eq_self_iff.mpr ?_).symm
        rintro ⟨⟩
        exact hreturn ⟨rfl, rfl⟩
      | cons d l => exact (dropReturn_cons (by simp)).symm

/-- What comes after the last feed. -/
theorem lines_of_notMem_feed {l : List Char} (hl : '\n' ∉ l) :
    lines l = if l = [] then [] else [l] := by
  induction l with
  | nil => simp
  | cons c l ih =>
    simp only [List.mem_cons, not_or] at hl
    rw [lines_cons (Ne.symm hl.1), ih hl.2]
    · split
      · next hnil => simp [hnil, consLine]
      · rfl
    · rintro -
      cases l with
      | nil => simp
      | cons d l =>
        rintro ⟨⟩
        exact hl.2 List.mem_cons_self

theorem feed_notMem_of_mem_lines {cs l : List Char} (h : l ∈ lines cs) : '\n' ∉ l := by
  fun_induction lines cs generalizing l with
  | case1 => simp at h
  | case2 cs ih | case3 cs ih =>
    obtain rfl | h := List.mem_cons.mp h
    · exact List.not_mem_nil
    · exact ih h
  | case4 c cs hfeed _ ih =>
    have hc : '\n' ≠ c := fun heq => hfeed heq.symm
    generalize lines cs = ls at h ih
    cases ls with
    | nil =>
      obtain rfl := List.mem_singleton.mp h
      simpa using hc
    | cons l' ls =>
      obtain rfl | h := List.mem_cons.mp h
      · simpa [hc] using ih List.mem_cons_self
      · exact ih (List.mem_cons_of_mem l' h)

/-! ### Joining and splitting again -/

theorem lines_joinLines {ls : List (List Char)} (h : ∀ l ∈ ls, '\n' ∉ l) :
    lines (joinLines ls) = resplit ls := by
  fun_induction resplit ls with
  | case1 => rfl
  | case2 => rfl
  | case3 l hl => simpa [joinLines, List.intercalate, hl] using lines_of_notMem_feed (h l (by simp))
  | case4 l l' ls ih =>
    have hjoin : joinLines (l :: l' :: ls) = l ++ '\n' :: joinLines (l' :: ls) := by
      simp [joinLines, List.intercalate]
    rw [hjoin, lines_append_feed (h l (by simp)), ih fun k hk => h k (List.mem_cons_of_mem l hk)]

theorem resplit_eq_nil_iff {ls : List (List Char)} : resplit ls = [] ↔ ls = [] ∨ ls = [[]] := by
  match ls with
  | [] => exact iff_of_true rfl (.inl rfl)
  | [l] =>
    show (if l = [] then [] else [l]) = [] ↔ _
    simp
  | l :: l' :: ls => exact iff_of_false nofun (by simp)

theorem lines_joinLines_lines (cs : List Char) : lines (joinLines (lines cs)) = resplit (lines cs) :=
  lines_joinLines fun _ => feed_notMem_of_mem_lines

/-- The lines that joining and splitting leaves as they are. -/
structure Resplits (ls : List (List Char)) : Prop where
  /-- Only the last line ends with a return. -/
  returns : ∀ l ∈ ls.dropLast, l.getLast? ≠ some '\r'
  last : ls.getLast? ≠ some []

theorem resplit_eq_self_iff {ls : List (List Char)} : resplit ls = ls ↔ Resplits ls := by
  fun_induction resplit ls with
  | case1 => exact iff_of_true rfl ⟨nofun, nofun⟩
  | case2 => exact iff_of_false nofun fun h => h.last rfl
  | case3 l hl => exact iff_of_true rfl ⟨nofun, by simpa using hl⟩
  | case4 l l' ls ih =>
    rw [List.cons.injEq, dropReturn_eq_self_iff, ih]
    constructor
    · rintro ⟨hl, h⟩
      refine ⟨?_, by simpa using h.last⟩
      rw [List.dropLast_cons_cons]
      exact List.forall_mem_cons.mpr ⟨hl, h.returns⟩
    · intro h
      have hreturns := h.returns
      rw [List.dropLast_cons_cons, List.forall_mem_cons] at hreturns
      exact ⟨hreturns.1, hreturns.2, by simpa using h.last⟩

/-- Two joined texts are the same if their lines are, or if nothing but an empty line is lost. -/
theorem joinLines_resplit_eq_iff {ls : List (List Char)} (h : ∀ l ∈ ls, '\n' ∉ l) :
    joinLines (resplit ls) = joinLines ls ↔ Resplits ls ∨ ls = [[]] := by
  rw [← resplit_eq_self_iff]
  by_cases hnil : resplit ls = []
  · obtain rfl | rfl := resplit_eq_nil_iff.mp hnil
    · exact iff_of_true rfl (.inl rfl)
    · exact iff_of_true rfl (.inr rfl)
  · obtain ⟨hls, hblank⟩ := not_or.mp (mt resplit_eq_nil_iff.mpr hnil)
    have hresplit : ∀ l ∈ resplit ls, '\n' ∉ l := by
      rw [← lines_joinLines h]
      exact fun _ => feed_notMem_of_mem_lines
    constructor
    · intro heq
      have hsplit := congrArg (List.splitOn '\n') heq
      rw [joinLines, joinLines, List.splitOn_intercalate '\n' hresplit hnil,
        List.splitOn_intercalate '\n' h hls] at hsplit
      exact .inl hsplit
    · intro heq
      rw [heq.resolve_right hblank]

end AccumulatorMachine.Text
