import AccumulatorMachine.Text.Blank

/-! The words of a text are its maximal runs of characters that are not blank. -/
namespace AccumulatorMachine.Text

/-- Nothing but blanks. -/
def Blanks (cs : List Char) : Prop := ∀ c ∈ cs, isBlank c = true

/-- A piece of text that has no blank in it. -/
structure Word (w : List Char) : Prop where
  ne_nil : w ≠ []
  solid : ∀ c ∈ w, isBlank c = false

instance (cs : List Char) : Decidable (Blanks cs) :=
  decidable_of_iff (cs.all isBlank = true) List.all_eq_true

theorem word_iff {w : List Char} : w ≠ [] ∧ w.all (!isBlank ·) = true ↔ Word w := by
  simp only [List.all_eq_true, Bool.not_eq_true']
  exact ⟨fun h => ⟨h.1, h.2⟩, fun h => ⟨h.ne_nil, h.solid⟩⟩

instance (w : List Char) : Decidable (Word w) := decidable_of_iff _ word_iff

/-- The maximal runs of characters that are not blank, from the first to the last. -/
inductive Runs : List Char → List (List Char) → Prop
  | none {blanks : List Char} (hblanks : Blanks blanks) : Runs blanks []
  /-- Blanks, if any, come first, and what comes behind the run begins with a blank, if there is
  anything. -/
  | run {blanks w rest : List Char} {ws : List (List Char)} (hblanks : Blanks blanks) (hw : Word w)
      (hend : ∀ c, rest.head? = some c → isBlank c = true) (hrest : Runs rest ws) :
      Runs (blanks ++ w ++ rest) (w :: ws)

/-- Two words with blanks between them, and perhaps around them. -/
inductive Pair : List Char → List Char → List Char → Prop
  | mk {before x between y after : List Char} (hbefore : Blanks before) (hx : Word x)
      (hbetween : Blanks between) (hapart : between ≠ []) (hy : Word y) (hafter : Blanks after) :
      Pair (before ++ x ++ between ++ y ++ after) x y

theorem Pair.word_left {cs x y : List Char} (h : Pair cs x y) : Word x := by
  cases h with
  | mk _ hx _ _ _ _ => exact hx

theorem Blanks.head {cs : List Char} (h : Blanks cs) (c : Char) (hc : cs.head? = some c) :
    isBlank c = true :=
  h c (List.mem_of_head? hc)

/-! ### Words of joined texts -/

/-- A blank parts the words before it from those behind it. -/
theorem words_append_cons {c : Char} (cs ds : List Char) (h : isBlank c = true) :
    words (cs ++ c :: ds) = words cs ++ words ds := by
  rw [words, List.splitOnP_append_cons cs ds h, List.filter_append]
  rfl

theorem words_blanks_append {blanks : List Char} (h : Blanks blanks) (cs : List Char) :
    words (blanks ++ cs) = words cs := by
  induction blanks with
  | nil => rfl
  | cons c blanks ih =>
    rw [List.cons_append, words_cons_of_isBlank _ (h c List.mem_cons_self)]
    exact ih fun d hd => h d (List.mem_cons_of_mem c hd)

theorem words_of_blanks {blanks : List Char} (h : Blanks blanks) : words blanks = [] := by
  have happend := words_blanks_append h []
  rwa [List.append_nil, words_nil] at happend

theorem Word.words_eq {w : List Char} (h : Word w) : words w = [w] := by
  rw [words, List.splitOnP_eq_singleton h.solid]
  simp [h.ne_nil]

/-- Blanks that are there part the words before them from those behind them. -/
theorem words_append_blanks_append {blanks : List Char} (h : Blanks blanks) (hne : blanks ≠ [])
    (cs ds : List Char) : words (cs ++ blanks ++ ds) = words cs ++ words ds := by
  obtain ⟨c, blanks, rfl⟩ := List.exists_cons_of_ne_nil hne
  have hrest : Blanks blanks := fun d hd => h d (List.mem_cons_of_mem c hd)
  rw [List.append_assoc, List.cons_append, words_append_cons _ _ (h c List.mem_cons_self),
    words_blanks_append hrest]

theorem words_append_blanks {blanks : List Char} (h : Blanks blanks) (cs : List Char) :
    words (cs ++ blanks) = words cs := by
  by_cases hne : blanks = []
  · rw [hne, List.append_nil]
  · have happend := words_append_blanks_append h hne cs []
    rwa [List.append_nil, words_nil, List.append_nil] at happend

/-! ### Runs -/

theorem Runs.words_eq {cs : List Char} {ws : List (List Char)} (h : Runs cs ws) : words cs = ws := by
  induction h with
  | none hblanks => exact words_of_blanks hblanks
  | @run blanks w rest ws hblanks hw hend _ ih =>
    rw [List.append_assoc, words_blanks_append hblanks]
    cases rest with
    | nil =>
      rw [List.append_nil, hw.words_eq, ← ih, words_nil]
    | cons c rest =>
      have hc : isBlank c = true := hend c rfl
      rw [words_append_cons _ _ hc, hw.words_eq, ← ih, words_cons_of_isBlank _ hc]
      rfl

theorem Runs.cons_of_isBlank {c : Char} {cs : List Char} {ws : List (List Char)} (h : Runs cs ws)
    (hc : isBlank c = true) : Runs (c :: cs) ws := by
  have hblanks {blanks : List Char} (h : Blanks blanks) : Blanks (c :: blanks) :=
    List.forall_mem_cons.mpr ⟨hc, h⟩
  cases h with
  | none h => exact .none (hblanks h)
  | run h hw hend hrest => exact .run (hblanks h) hw hend hrest

theorem blanks_nil : Blanks [] := fun _ hd => absurd hd List.not_mem_nil

theorem Runs.begin {c : Char} {cs : List Char} {ws : List (List Char)} (h : Runs cs ws)
    (hc : isBlank c = false) (hend : ∀ d, cs.head? = some d → isBlank d = true) :
    Runs (c :: cs) ([c] :: ws) := by
  have hword : Word [c] := ⟨List.cons_ne_nil c [], by simpa using hc⟩
  exact .run blanks_nil hword hend h

/-- A character that is not blank begins a run or goes in front of the first one. -/
theorem Runs.cons_of_not_isBlank {c : Char} {cs : List Char} {ws : List (List Char)} (h : Runs cs ws)
    (hc : isBlank c = false) : ∃ ws', Runs (c :: cs) ws' := by
  cases h with
  | none h => exact ⟨_, (Runs.none h).begin hc h.head⟩
  | @run blanks w rest ws h hw hend hrest =>
    cases blanks with
    | nil =>
      have hlonger : Word (c :: w) :=
        ⟨List.cons_ne_nil c w, List.forall_mem_cons.mpr ⟨hc, hw.solid⟩⟩
      exact ⟨_, .run blanks_nil hlonger hend hrest⟩
    | cons b blanks =>
      have hb : ∀ d, (b :: blanks ++ w ++ rest).head? = some d → isBlank d = true := by
        rintro d ⟨⟩
        exact h b List.mem_cons_self
      exact ⟨_, (Runs.run h hw hend hrest).begin hc hb⟩

theorem exists_runs (cs : List Char) : ∃ ws, Runs cs ws := by
  induction cs with
  | nil => exact ⟨[], .none blanks_nil⟩
  | cons c cs ih =>
    obtain ⟨ws, hruns⟩ := ih
    cases hc : isBlank c with
    | true => exact ⟨ws, hruns.cons_of_isBlank hc⟩
    | false => exact hruns.cons_of_not_isBlank hc

theorem words_eq_iff_runs {cs : List Char} {ws : List (List Char)} : words cs = ws ↔ Runs cs ws := by
  constructor
  · rintro rfl
    obtain ⟨ws, hruns⟩ := exists_runs cs
    rwa [hruns.words_eq]
  · exact Runs.words_eq

theorem words_eq_nil_iff {cs : List Char} : words cs = [] ↔ Blanks cs := by
  constructor
  · intro h
    cases words_eq_iff_runs.mp h with
    | none hblanks => exact hblanks
  · exact words_of_blanks

theorem words_eq_pair_iff {cs x y : List Char} : words cs = [x, y] ↔ Pair cs x y := by
  constructor
  · intro h
    cases words_eq_iff_runs.mp h with
    | @run before _ rest _ hbefore hx hend hrest =>
      cases hrest with
      | @run between _ after _ hbetween hy _ hafter =>
        cases hafter with
        | none hafter =>
          have hapart : between ≠ [] := by
            rintro rfl
            obtain ⟨c, y, rfl⟩ := List.exists_cons_of_ne_nil hy.ne_nil
            have hblank : isBlank c = true := hend c rfl
            cases hblank.symm.trans (hy.solid c List.mem_cons_self)
          simpa only [List.append_assoc] using Pair.mk hbefore hx hbetween hapart hy hafter
  · rintro ⟨hbefore, hx, hbetween, hapart, hy, hafter⟩
    rw [words_append_blanks hafter, words_append_blanks_append hbetween hapart,
      words_blanks_append hbefore, hx.words_eq, hy.words_eq]
    rfl

end AccumulatorMachine.Text
