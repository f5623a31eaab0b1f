import AccumulatorMachine.Proofs.Text.Words
import AccumulatorMachine.Text.Case

/-! What case conversion makes of a text. Words stay words, and few characters beyond ASCII become ASCII
letters. -/
namespace AccumulatorMachine.Text

/-! ### Characters by what they become -/

/-- What the tables make of a character. -/
inductive Converts (sequences : List (Nat × List Nat)) (runs : List CaseRun) (c : Char) :
    List Char → Prop
  | sequence {ns : List Nat} (h : (c.toNat, ns) ∈ sequences) :
      Converts sequences runs c (ns.map Char.ofNat)
  /-- A code that belongs to no character would give the character with the code zero. -/
  | shifted {r : CaseRun} {d : Char} (hr : r ∈ runs) (hcovers : r.covers c.toNat = true)
      (hd : d.toNat ≠ 0 → (d.toNat : Int) = c.toNat + r.shift) : Converts sequences runs c [d]
  | same : Converts sequences runs c [c]

theorem CaseRun.bounds_of_covers {r : CaseRun} {n : Nat} (h : r.covers n = true) :
    r.first ≤ n ∧ n ≤ r.last := by
  simp only [CaseRun.covers, Bool.and_eq_true, decide_eq_true_eq] at h
  exact h.1

theorem toNat_ofNat_cases (n : Nat) : (Char.ofNat n).toNat = n ∨ (Char.ofNat n).toNat = 0 := by
  by_cases h : n.isValidChar
  · left
    rw [Char.ofNat, dif_pos h]
    rfl
  · right
    rw [Char.ofNat, dif_neg h]
    rfl

theorem converts_shiftCase (sequences : List (Nat × List Nat)) (runs : List CaseRun) (c : Char) :
    Converts sequences runs c [shiftCase runs c] := by
  unfold shiftCase
  split
  · next r hfind =>
    have hcovers : r.covers c.toNat = true := by simpa using List.find?_some hfind
    refine .shifted (List.mem_of_find?_eq_some hfind) hcovers fun hne => ?_
    have hcode := toNat_ofNat_cases (c.toNat + r.shift).toNat
    omega
  · exact .same

theorem converts_convertCase {ascii : Char → Char} {sequences : List (Nat × List Nat)}
    {runs : List CaseRun} {c : Char} (h : ¬ c.toNat < 0x80) :
    Converts sequences runs c (convertCase ascii sequences runs c) := by
  rw [convertCase, if_neg h]
  split
  · next ns hns =>
    obtain ⟨before, after, hsequences, -⟩ := List.lookup_eq_some_iff.mp hns
    refine .sequence ?_
    rw [hsequences]
    exact List.mem_append_right before List.mem_cons_self
  · exact converts_shiftCase sequences runs c

theorem converts_lowerChar {c : Char} (h : ¬ c.toNat < 0x80) :
    Converts lowerSequences lowerRuns c (lowerChar c) := converts_convertCase h

theorem converts_upperChar {c : Char} (h : ¬ c.toNat < 0x80) :
    Converts upperSequences upperRuns c (upperChar c) := converts_convertCase h

/-- What holds of the characters with the codes below 128 holds of all that are ASCII. -/
theorem of_ascii {P : Char → Prop} (h : ∀ n < 0x80, P (Char.ofNat n)) {c : Char}
    (hc : c.toNat < 0x80) : P c := by
  rw [← c.ofNat_toNat]
  exact h c.toNat hc

/-- A character of a text in lower case comes from one character of the text. The two small sigmas
come from the capital one. -/
theorem mem_lowerFrom {before cs : List Char} {d : Char} (h : d ∈ lowerFrom before cs) :
    (∃ c ∈ cs, d ∈ lowerChar c) ∨ d = 'σ' ∨ d = 'ς' := by
  induction cs generalizing before with
  | nil => cases h
  | cons c cs ih =>
    rw [lowerFrom, List.mem_append] at h
    rcases h with h | h
    · split at h
      · rw [List.mem_singleton, lowerSigma] at h
        split at h
        · exact .inr (.inr h)
        · exact .inr (.inl h)
      · exact .inl ⟨c, List.mem_cons_self, h⟩
    · obtain ⟨e, he, hd⟩ | hsigma := ih h
      · exact .inl ⟨e, List.mem_cons_of_mem c he, hd⟩
      · exact .inr hsigma

theorem lowerChar_subset_lowerFrom {c d : Char} {cs : List Char} (hc : c ∈ cs) (hsigma : c ≠ 'Σ')
    (hd : d ∈ lowerChar c) (before : List Char) : d ∈ lowerFrom before cs := by
  induction cs generalizing before with
  | nil => cases hc
  | cons e cs ih =>
    rw [lowerFrom, List.mem_append]
    rcases List.mem_cons.mp hc with rfl | hc
    · rw [if_neg hsigma]
      exact .inl hd
    · exact .inr (ih hc _)

theorem exists_sigma_mem_lowerFrom {cs : List Char} (h : 'Σ' ∈ cs) (before : List Char) :
    ∃ d ∈ lowerFrom before cs, d = 'σ' ∨ d = 'ς' := by
  induction cs generalizing before with
  | nil => cases h
  | cons e cs ih =>
    rcases List.mem_cons.mp h with rfl | h
    · refine ⟨lowerSigma before cs, List.mem_append_left _ List.mem_cons_self, ?_⟩
      unfold lowerSigma
      split
      · exact .inr rfl
      · exact .inl rfl
    · obtain ⟨d, hd, hsigma⟩ := ih h (e :: before)
      exact ⟨d, List.mem_append_right _ hd, hsigma⟩

/-! ### Words -/

/-- The ranges of codes whose characters are blank. -/
def blankRanges : List (Nat × Nat) :=
  [(0x09, 0x0D), (0x20, 0x20), (0x85, 0x85), (0xA0, 0xA0), (0x1680, 0x1680), (0x2000, 0x200A),
    (0x2028, 0x2029), (0x202F, 0x202F), (0x205F, 0x205F), (0x3000, 0x3000)]

theorem mem_blankRanges {c : Char} (h : isBlank c = true) :
    ∃ b ∈ blankRanges, b.1 ≤ c.toNat ∧ c.toNat ≤ b.2 := by
  simp only [isBlank, Bool.or_eq_true, Bool.and_eq_true, decide_eq_true_eq, beq_iff_eq] at h
  simp only [blankRanges, List.mem_cons, List.not_mem_nil, or_false, exists_eq_or_imp,
    exists_eq_left]
  omega

/-- No run turns a code into one of this range. -/
def Misses (runs : List CaseRun) (first last : Nat) : Prop :=
  ∀ r ∈ runs, (last : Int) < r.first + r.shift ∨ r.last + r.shift < (first : Int)

set_option maxRecDepth 2000 in
theorem misses_of_mem_blankRanges :
    ∀ b ∈ blankRanges, Misses lowerRuns b.1 b.2 ∧ Misses upperRuns b.1 b.2 := by
  unfold Misses
  decide

theorem Misses.ne {runs : List CaseRun} {first last code : Nat} (h : Misses runs first last)
    (hfirst : first ≤ code) (hlast : code ≤ last) {r : CaseRun} {n : Nat} (hr : r ∈ runs)
    (hcovers : r.covers n = true) : (code : Int) ≠ n + r.shift := by
  have hbounds := CaseRun.bounds_of_covers hcovers
  have hmisses := h r hr
  omega

theorem Converts.word {sequences : List (Nat × List Nat)} {runs : List CaseRun} {c : Char}
    {ds : List Char} (h : Converts sequences runs c ds) (hc : isBlank c = false)
    (hsequences : ∀ s ∈ sequences, Word (s.2.map Char.ofNat))
    (hruns : ∀ b ∈ blankRanges, Misses runs b.1 b.2) : Word ds := by
  cases h with
  | sequence h => exact hsequences _ h
  | @shifted r d hr hcovers h =>
    have hd : isBlank d = false := by
      rw [Bool.eq_false_iff]
      intro hblank
      obtain ⟨b, hb, hfirst, hlast⟩ := mem_blankRanges hblank
      have hpositive : ∀ b ∈ blankRanges, 0 < b.1 := by decide
      have hne : d.toNat ≠ 0 := Nat.ne_of_gt (Nat.lt_of_lt_of_le (hpositive b hb) hfirst)
      exact (hruns b hb).ne hfirst hlast hr hcovers (h hne)
    exact ⟨List.cons_ne_nil d [], by simpa using hd⟩
  | same => exact ⟨List.cons_ne_nil c [], by simpa using hc⟩

set_option maxRecDepth 2000 in
theorem word_of_mem_sequences :
    (∀ s ∈ lowerSequences, Word (s.2.map Char.ofNat)) ∧
      ∀ s ∈ upperSequences, Word (s.2.map Char.ofNat) := by
  decide

theorem isBlank_toLower {c : Char} (hc : c.toNat < 0x80) (h : isBlank c = false) :
    isBlank c.toLower = false := by
  revert h
  exact of_ascii (P := fun c => isBlank c = false → isBlank c.toLower = false) (by decide) hc

theorem isBlank_toUpper {c : Char} (hc : c.toNat < 0x80) (h : isBlank c = false) :
    isBlank c.toUpper = false := by
  revert h
  exact of_ascii (P := fun c => isBlank c = false → isBlank c.toUpper = false) (by decide) hc

theorem word_lowerChar {c : Char} (h : isBlank c = false) : Word (lowerChar c) := by
  by_cases hc : c.toNat < 0x80
  · rw [lowerChar_of_lt hc]
    exact ⟨List.cons_ne_nil _ [], by simpa using isBlank_toLower hc h⟩
  · exact (converts_lowerChar hc).word h word_of_mem_sequences.1
      fun b hb => (misses_of_mem_blankRanges b hb).1

theorem word_upperChar {c : Char} (h : isBlank c = false) : Word (upperChar c) := by
  by_cases hc : c.toNat < 0x80
  · rw [upperChar_of_lt hc]
    exact ⟨List.cons_ne_nil _ [], by simpa using isBlank_toUpper hc h⟩
  · exact (converts_upperChar hc).word h word_of_mem_sequences.2
      fun b hb => (misses_of_mem_blankRanges b hb).2

theorem Word.upper {w : List Char} (h : Word w) : Word (upper w) := by
  constructor
  · obtain ⟨c, w, rfl⟩ := List.exists_cons_of_ne_nil h.ne_nil
    have hc : Word (upperChar c) := word_upperChar (h.solid c List.mem_cons_self)
    simp [Text.upper, hc.ne_nil]
  · intro d hd
    obtain ⟨c, hc, hd⟩ := List.mem_flatMap.mp hd
    exact (word_upperChar (h.solid c hc)).solid d hd

theorem Word.lower {w : List Char} (h : Word w) : Word (lower w) := by
  constructor
  · obtain ⟨c, w, rfl⟩ := List.exists_cons_of_ne_nil h.ne_nil
    have hc : Word (lowerChar c) := word_lowerChar (h.solid c List.mem_cons_self)
    rw [Text.lower, lowerFrom]
    split
    · exact List.cons_ne_nil _ _
    · exact List.append_ne_nil_of_left_ne_nil hc.ne_nil _
  · intro d hd
    obtain ⟨c, hc, hd⟩ | rfl | rfl := mem_lowerFrom hd
    · exact (word_lowerChar (h.solid c hc)).solid d hd
    · decide
    · decide

/-! ### ASCII letters -/

/-- ASCII letters in either case. -/
def Letters (cs : List Char) : Prop := ∀ c ∈ cs, c.isAlpha = true

/-- The sign of the unit kelvin is the one character beyond ASCII with an ASCII letter for its lower
case. -/
def kelvin : Char := '\u212A'

/-- The characters beyond ASCII with ASCII letters for their upper case. -/
def ligatures : List Char := ['ß', 'ı', 'ſ', 'ﬀ', 'ﬁ', 'ﬂ', 'ﬃ', 'ﬄ', 'ﬅ', 'ﬆ']

theorem toNat_of_isUpper {c : Char} (h : c.isUpper = true) : 0x41 ≤ c.toNat ∧ c.toNat < 0x61 := by
  obtain ⟨hlow, hhigh⟩ := of_decide_eq_true h
  rw [ge_iff_le, UInt32.le_iff_toNat_le] at hlow
  rw [UInt32.le_iff_toNat_le] at hhigh
  exact ⟨hlow, Nat.lt_of_le_of_lt hhigh (by decide)⟩

theorem toNat_of_isLower {c : Char} (h : c.isLower = true) : 0x61 ≤ c.toNat ∧ c.toNat < 0x80 := by
  obtain ⟨hlow, hhigh⟩ := Bool.and_eq_true_iff.mp h
  have hleast := of_decide_eq_true hlow
  have hmost := of_decide_eq_true hhigh
  rw [ge_iff_le, UInt32.le_iff_toNat_le] at hleast
  rw [UInt32.le_iff_toNat_le] at hmost
  exact ⟨hleast, Nat.lt_of_le_of_lt hmost (by decide)⟩

theorem toNat_of_isAlpha {c : Char} (h : c.isAlpha = true) : c.toNat ≠ 0 ∧ c.toNat < 0x80 := by
  obtain h | h := Bool.or_eq_true_iff.mp h
  · have hbounds := toNat_of_isUpper h
    omega
  · have hbounds := toNat_of_isLower h
    omega

theorem toLower_of_not_lt {c : Char} (hc : ¬ c.toNat < 0x80) : c.toLower = c := by
  unfold Char.toLower
  rw [dif_neg]
  rintro ⟨-, hhigh⟩
  rw [UInt32.le_iff_toNat_le] at hhigh
  exact hc (Nat.lt_of_le_of_lt hhigh (by decide))

theorem isAlpha_toLower (c : Char) : c.toLower.isAlpha = c.isAlpha := by
  by_cases hc : c.toNat < 0x80
  · exact of_ascii (P := fun c => c.toLower.isAlpha = c.isAlpha) (by decide) hc
  · rw [toLower_of_not_lt hc]

theorem isAlpha_toUpper {c : Char} (hc : c.toNat < 0x80) : c.toUpper.isAlpha = c.isAlpha :=
  of_ascii (P := fun c => c.toUpper.isAlpha = c.isAlpha) (by decide) hc

theorem toLower_toUpper {c : Char} (hc : c.toNat < 0x80) : c.toUpper.toLower = c.toLower :=
  of_ascii (P := fun c => c.toUpper.toLower = c.toLower) (by decide) hc

theorem toLower_toLower (c : Char) : c.toLower.toLower = c.toLower := by
  by_cases hc : c.toNat < 0x80
  · exact of_ascii (P := fun c => c.toLower.toLower = c.toLower) (by decide) hc
  · rw [toLower_of_not_lt hc, toLower_of_not_lt hc]

theorem eq_ofNat_of_toNat_eq {c : Char} {n : Nat} (h : c.toNat = n) : c = Char.ofNat n := by
  rw [← h, Char.ofNat_toNat]

set_option maxRecDepth 2000 in
/-- Runs that turn a code into one of ASCII cover one code only. In lower case it becomes a small
letter. -/
theorem lowerRuns_to_ascii :
    ∀ r ∈ lowerRuns, (0x80 : Int) ≤ r.first + r.shift ∨
      r.first = 0x212A ∧ r.last = 0x212A ∧ (0x61 : Int) ≤ r.first + r.shift := by
  decide

set_option maxRecDepth 2000 in
theorem upperRuns_to_ascii :
    ∀ r ∈ upperRuns, (0x80 : Int) ≤ r.first + r.shift ∨ r.first = 0x131 ∧ r.last = 0x131 ∨
      r.first = 0x17F ∧ r.last = 0x17F := by
  decide

set_option maxRecDepth 2000 in
theorem misses_kelvin : Misses lowerRuns 0x212A 0x212A ∧ Misses upperRuns 0x212A 0x212A := by
  unfold Misses
  decide

theorem kelvin_not_mem_sequences :
    (∀ s ∈ lowerSequences, kelvin ∉ s.2.map Char.ofNat) ∧
      ∀ s ∈ upperSequences, kelvin ∉ s.2.map Char.ofNat := by
  decide

/-- Letters come from a sequence of letters, or from a run that reaches into ASCII. -/
theorem Converts.of_letters {sequences : List (Nat × List Nat)} {runs : List CaseRun} {c : Char}
    {ds : List Char} (h : Converts sequences runs c ds) (hc : ¬ c.toNat < 0x80) (hds : Letters ds) :
    (∃ ns, (c.toNat, ns) ∈ sequences ∧ (ns.map Char.ofNat).all Char.isAlpha = true) ∨
      ∃ r ∈ runs, r.first ≤ c.toNat ∧ c.toNat ≤ r.last ∧ r.first + r.shift < (0x80 : Int) := by
  cases h with
  | sequence hs => exact .inl ⟨_, hs, List.all_eq_true.mpr hds⟩
  | @shifted r d hr hcovers hd =>
    obtain ⟨hne, hlt⟩ := toNat_of_isAlpha (hds d List.mem_cons_self)
    obtain ⟨hfirst, hlast⟩ := CaseRun.bounds_of_covers hcovers
    have hcode := hd hne
    exact .inr ⟨r, hr, hfirst, hlast, by omega⟩
  | same => exact absurd (toNat_of_isAlpha (hds c List.mem_cons_self)).2 hc

theorem Converts.eq_kelvin {sequences : List (Nat × List Nat)} {runs : List CaseRun} {c : Char}
    {ds : List Char} (h : Converts sequences runs c ds) (hmem : kelvin ∈ ds)
    (hsequences : ∀ s ∈ sequences, kelvin ∉ s.2.map Char.ofNat)
    (hruns : Misses runs 0x212A 0x212A) : c = kelvin := by
  cases h with
  | sequence hs => exact absurd hmem (hsequences _ hs)
  | shifted hr hcovers hd =>
    cases List.mem_singleton.mp hmem
    exact absurd (hd (by decide)) (hruns.ne (Nat.le_refl _) (Nat.le_refl _) hr hcovers)
  | same => exact (List.mem_singleton.mp hmem).symm

theorem isAlpha_or_eq_kelvin_of_lowerChar {c : Char} (h : Letters (lowerChar c)) :
    c.isAlpha = true ∨ c = kelvin := by
  by_cases hc : c.toNat < 0x80
  · rw [lowerChar_of_lt hc, Letters, List.forall_mem_singleton, isAlpha_toLower] at h
    exact .inl h
  · right
    have hbeyond : ∀ s ∈ lowerSequences, (s.2.map Char.ofNat).all Char.isAlpha = false := by decide
    obtain ⟨ns, hs, hall⟩ | ⟨r, hr, hfirst, hlast, hascii⟩ := (converts_lowerChar hc).of_letters hc h
    · cases (hbeyond _ hs).symm.trans hall
    · have hrun := lowerRuns_to_ascii r hr
      exact eq_ofNat_of_toNat_eq (n := 0x212A) (by omega)

theorem isAlpha_or_mem_ligatures_of_upperChar {c : Char} (h : Letters (upperChar c)) :
    c.isAlpha = true ∨ c ∈ ligatures := by
  by_cases hc : c.toNat < 0x80
  · rw [upperChar_of_lt hc, Letters, List.forall_mem_singleton, isAlpha_toUpper hc] at h
    exact .inl h
  · right
    have hligature : ∀ s ∈ upperSequences, (s.2.map Char.ofNat).all Char.isAlpha = true →
        Char.ofNat s.1 ∈ ligatures := by
      decide
    obtain ⟨ns, hs, hall⟩ | ⟨r, hr, hfirst, hlast, hascii⟩ := (converts_upperChar hc).of_letters hc h
    · have hmem := hligature _ hs hall
      rwa [Char.ofNat_toNat] at hmem
    · have hrun := upperRuns_to_ascii r hr
      have hcode : c.toNat = 0x131 ∨ c.toNat = 0x17F := by omega
      obtain hcode | hcode := hcode
      · rw [eq_ofNat_of_toNat_eq hcode]
        decide
      · rw [eq_ofNat_of_toNat_eq hcode]
        decide

theorem not_isUpper_of_mem_lowerChar {c d : Char} (h : d ∈ lowerChar c) : d.isUpper = false := by
  by_cases hc : c.toNat < 0x80
  · rw [lowerChar_of_lt hc, List.mem_singleton] at h
    rw [h]
    exact of_ascii (P := fun c => c.toLower.isUpper = false) (by decide) hc
  · rw [Bool.eq_false_iff]
    intro hupper
    obtain ⟨hlow, hhigh⟩ := toNat_of_isUpper hupper
    have hconverts := converts_lowerChar hc
    generalize lowerChar c = ds at h hconverts
    cases hconverts with
    | sequence hs =>
      have hsmall : ∀ s ∈ lowerSequences, (s.2.map Char.ofNat).all (!·.isUpper) = true := by decide
      have hfalse := List.all_eq_true.mp (hsmall _ hs) d h
      rw [hupper] at hfalse
      cases hfalse
    | @shifted r _ hr hcovers hd =>
      cases List.mem_singleton.mp h
      have hcode := hd (by omega)
      have hbounds := CaseRun.bounds_of_covers hcovers
      have hrun := lowerRuns_to_ascii r hr
      omega
    | same =>
      cases List.mem_singleton.mp h
      omega

theorem kelvin_not_mem_lowerChar (c : Char) : kelvin ∉ lowerChar c := by
  intro h
  by_cases hc : c.toNat < 0x80
  · rw [lowerChar_of_lt hc, List.mem_singleton] at h
    exact absurd h (of_ascii (P := fun c => kelvin ≠ c.toLower) (by decide) hc)
  · obtain rfl := (converts_lowerChar hc).eq_kelvin h kelvin_not_mem_sequences.1 misses_kelvin.1
    revert h
    decide

theorem eq_kelvin_of_mem_upperChar {c : Char} (h : kelvin ∈ upperChar c) : c = kelvin := by
  by_cases hc : c.toNat < 0x80
  · rw [upperChar_of_lt hc, List.mem_singleton] at h
    exact absurd h (of_ascii (P := fun c => kelvin ≠ c.toUpper) (by decide) hc)
  · exact (converts_upperChar hc).eq_kelvin h kelvin_not_mem_sequences.2 misses_kelvin.2

/-- Neither an ASCII capital nor the sign of the kelvin, as every character in lower case. -/
structure Lowered (d : Char) : Prop where
  not_isUpper : d.isUpper = false
  ne_kelvin : d ≠ kelvin

theorem lowered_of_mem_lower {cs : List Char} {d : Char} (h : d ∈ lower cs) : Lowered d := by
  obtain ⟨c, -, hd⟩ | rfl | rfl := mem_lowerFrom h
  · refine ⟨not_isUpper_of_mem_lowerChar hd, ?_⟩
    rintro rfl
    exact kelvin_not_mem_lowerChar c hd
  · exact ⟨by decide, by decide⟩
  · exact ⟨by decide, by decide⟩

/-! ### Texts of letters -/

theorem lowerFrom_of_letters {cs : List Char} (h : Letters cs) (before : List Char) :
    lowerFrom before cs = cs.map Char.toLower := by
  induction cs generalizing before with
  | nil => rfl
  | cons c cs ih =>
    obtain ⟨hc, hcs⟩ := List.forall_mem_cons.mp h
    have hsigma : c ≠ 'Σ' := by
      rintro rfl
      cases hc
    rw [lowerFrom, if_neg hsigma, lowerChar_of_lt (toNat_of_isAlpha hc).2, ih hcs]
    rfl

theorem lower_of_letters {cs : List Char} (h : Letters cs) : lower cs = cs.map Char.toLower :=
  lowerFrom_of_letters h []

theorem upper_of_letters {cs : List Char} (h : Letters cs) : upper cs = cs.map Char.toUpper := by
  induction cs with
  | nil => rfl
  | cons c cs ih =>
    obtain ⟨hc, hcs⟩ := List.forall_mem_cons.mp h
    rw [upper, List.flatMap_cons, upperChar_of_lt (toNat_of_isAlpha hc).2, ← upper, ih hcs]
    rfl

theorem Letters.upper {cs : List Char} (h : Letters cs) : Letters (upper cs) := by
  intro d hd
  rw [upper_of_letters h] at hd
  obtain ⟨c, hc, rfl⟩ := List.mem_map.mp hd
  rw [isAlpha_toUpper (toNat_of_isAlpha (h c hc)).2]
  exact h c hc

theorem lower_upper_of_letters {cs : List Char} (h : Letters cs) :
    lower (upper cs) = cs.map Char.toLower := by
  rw [lower_of_letters h.upper, upper_of_letters h, List.map_map]
  exact List.map_congr_left fun c hc => toLower_toUpper (toNat_of_isAlpha (h c hc)).2

theorem map_toLower_map_toLower (cs : List Char) :
    (cs.map Char.toLower).map Char.toLower = cs.map Char.toLower := by
  rw [List.map_map]
  exact List.map_congr_left fun c _ => toLower_toLower c

theorem letters_of_lower {cs : List Char} (h : Letters (lower cs)) (hkelvin : kelvin ∉ cs) :
    Letters cs := by
  intro c hc
  have hsigma : c ≠ 'Σ' := by
    rintro rfl
    obtain ⟨d, hd, rfl | rfl⟩ := exists_sigma_mem_lowerFrom hc []
    · cases h _ hd
    · cases h _ hd
  obtain halpha | rfl := isAlpha_or_eq_kelvin_of_lowerChar fun d hd =>
    h d (lowerChar_subset_lowerFrom hc hsigma hd [])
  · exact halpha
  · exact absurd hc hkelvin

theorem kelvin_not_mem_upper {cs : List Char} (h : kelvin ∉ cs) : kelvin ∉ upper cs := by
  intro hmem
  obtain ⟨c, hc, hkelvin⟩ := List.mem_flatMap.mp hmem
  rw [eq_kelvin_of_mem_upperChar hkelvin] at hc
  exact h hc

theorem isAlpha_or_mem_ligatures_of_upper {cs : List Char} (h : Letters (upper cs)) {c : Char}
    (hc : c ∈ cs) : c.isAlpha = true ∨ c ∈ ligatures :=
  isAlpha_or_mem_ligatures_of_upperChar fun _ hd => h _ (List.mem_flatMap.mpr ⟨c, hc, hd⟩)

end AccumulatorMachine.Text
