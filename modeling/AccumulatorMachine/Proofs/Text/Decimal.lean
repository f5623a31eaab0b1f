import AccumulatorMachine.Proofs.Text.Words
import AccumulatorMachine.Text.Decimal
import Mathlib.Data.List.Basic
import Mathlib.Data.Nat.Digits.Defs

/-! Which texts denote integers, and that written integers are read back. -/
namespace AccumulatorMachine.Text

/-- ASCII digits, at least one. -/
structure Digits (ds : List Char) : Prop where
  ne_nil : ds ≠ []
  digit : ∀ d ∈ ds, d.isDigit = true

/-- The number with these decimal digits, of which the last counts the ones. -/
def digitsValue (ds : List Char) : Nat :=
  Nat.ofDigits 10 (ds.reverse.map fun d => d.toNat - '0'.toNat)

/-- The integer that a text denotes, which has one sign at most. -/
inductive Numeral : List Char → Int → Prop
  | unsigned {ds : List Char} (h : Digits ds) : Numeral ds (digitsValue ds)
  | plus {ds : List Char} (h : Digits ds) : Numeral ('+' :: ds) (digitsValue ds)
  | minus {ds : List Char} (h : Digits ds) : Numeral ('-' :: ds) (-digitsValue ds)

theorem ofDigitChars_eq_digitsValue (ds : List Char) : Nat.ofDigitChars 10 ds 0 = digitsValue ds := by
  induction ds with
  | nil => rfl
  | cons d ds ih =>
    have hvalue : digitsValue (d :: ds) = digitsValue ds + 10 ^ ds.length * (d.toNat - '0'.toNat) := by
      simp only [digitsValue, List.reverse_cons, List.map_append, List.map_singleton]
      rw [Nat.ofDigits_append, Nat.ofDigits_singleton, List.length_map, List.length_reverse]
    rw [Nat.ofDigitChars_cons, Nat.mul_zero, Nat.zero_add, Nat.ofDigitChars_eq_ofDigitChars_zero, ih,
      hvalue, Nat.add_comm]

theorem readNat?_eq_some_iff {cs : List Char} {n : Nat} :
    readNat? cs = some n ↔ Digits cs ∧ n = digitsValue cs := by
  unfold readNat?
  by_cases h : (!cs.isEmpty && cs.all Char.isDigit) = true
  · have hdigits : Digits cs := by
      simp only [Bool.and_eq_true, Bool.not_eq_true', List.isEmpty_eq_false_iff, List.all_eq_true] at h
      exact ⟨h.1, h.2⟩
    rw [if_pos h, Option.some.injEq, ofDigitChars_eq_digitsValue]
    exact ⟨fun heq => ⟨hdigits, heq.symm⟩, fun heq => heq.2.symm⟩
  · rw [if_neg h]
    refine iff_of_false nofun ?_
    rintro ⟨⟨hne, hdigit⟩, -⟩
    apply h
    simp only [Bool.and_eq_true, Bool.not_eq_true', List.isEmpty_eq_false_iff, List.all_eq_true]
    exact ⟨hne, hdigit⟩

theorem Digits.readNat? {ds : List Char} (h : Digits ds) : readNat? ds = some (digitsValue ds) :=
  readNat?_eq_some_iff.mpr ⟨h, rfl⟩

/-- A sign is no digit. -/
theorem Digits.readInt? {ds : List Char} (h : Digits ds) : readInt? ds = some (digitsValue ds) := by
  have hread := h.readNat?
  unfold Text.readInt?
  split
  · nomatch h.digit '-' List.mem_cons_self
  · nomatch h.digit '+' List.mem_cons_self
  · rw [hread]
    rfl

theorem readInt?_minus (ds : List Char) :
    Text.readInt? ('-' :: ds) = (Text.readNat? ds).map fun n : Nat => -(n : Int) := by
  show ((Text.readNat? ds).bind fun n => some (n : Int)).map (fun n => -n) = _
  cases Text.readNat? ds <;> rfl

theorem digits_of_map {ds : List Char} {f : Nat → Int} {n : Int} (h : (readNat? ds).map f = some n) :
    Digits ds ∧ n = f (digitsValue ds) := by
  obtain ⟨k, hk, rfl⟩ := Option.map_eq_some_iff.mp h
  obtain ⟨hdigits, rfl⟩ := readNat?_eq_some_iff.mp hk
  exact ⟨hdigits, rfl⟩

theorem numeral_of_readInt? {cs : List Char} {n : Int} (h : readInt? cs = some n) : Numeral cs n := by
  unfold readInt? at h
  split at h
  · next ds =>
    obtain ⟨hdigits, rfl⟩ := digits_of_map ((readInt?_minus ds).symm.trans h)
    exact .minus hdigits
  · obtain ⟨hdigits, rfl⟩ := digits_of_map h
    exact .plus hdigits
  · obtain ⟨hdigits, rfl⟩ := digits_of_map h
    exact .unsigned hdigits

theorem readInt?_eq_some_iff {cs : List Char} {n : Int} : readInt? cs = some n ↔ Numeral cs n := by
  constructor
  · exact numeral_of_readInt?
  · rintro (h | h | h)
    · exact h.readInt?
    · simp [readInt?, h.readNat?]
    · simp [readInt?_minus, h.readNat?]

theorem isBlank_of_isDigit {c : Char} (h : c.isDigit = true) : isBlank c = false := by
  simp [Char.isDigit, UInt32.le_iff_toNat_le] at h
  simp only [isBlank, Bool.or_eq_false_iff, Bool.and_eq_false_iff, decide_eq_false_iff_not,
    beq_eq_false_iff_ne]
  omega

theorem Digits.word {ds : List Char} (h : Digits ds) : Word ds :=
  ⟨h.ne_nil, fun d hd => isBlank_of_isDigit (h.digit d hd)⟩

theorem Numeral.word {cs : List Char} {n : Int} (h : Numeral cs n) : Word cs := by
  have hsign {c : Char} {ds : List Char} (hc : isBlank c = false) (h : Digits ds) : Word (c :: ds) :=
    ⟨List.cons_ne_nil c ds, List.forall_mem_cons.mpr ⟨hc, h.word.solid⟩⟩
  cases h with
  | unsigned h => exact h.word
  | plus h => exact hsign (by decide) h
  | minus h => exact hsign (by decide) h

theorem fitsInt32_iff {n : Int} : fitsInt32 n = true ↔ -2 ^ 31 ≤ n ∧ n < 2 ^ 31 := by
  simp only [fitsInt32, Bool.and_eq_true, decide_eq_true_eq]
  omega

theorem readInt32?_eq_some_iff {cs : List Char} {x : Int32} :
    readInt32? cs = some x ↔ Numeral cs x.toInt := by
  simp only [readInt32?, Option.bind_eq_some_iff, Option.ite_none_right_eq_some, fitsInt32_iff,
    Option.some.injEq, readInt?_eq_some_iff]
  constructor
  · rintro ⟨n, hn, ⟨hlow, hhigh⟩, rfl⟩
    rwa [Int32.toInt_ofInt_of_le hlow hhigh]
  · exact fun hn => ⟨x.toInt, hn, ⟨x.le_toInt, x.toInt_lt⟩, x.ofInt_toInt⟩

theorem readInt32?_eq_none_iff {cs : List Char} :
    readInt32? cs = none ↔ ∀ n, Numeral cs n → ¬ (-2 ^ 31 ≤ n ∧ n < 2 ^ 31) := by
  rw [Option.eq_none_iff_forall_ne_some]
  constructor
  · rintro hnone n hn ⟨hlow, hhigh⟩
    apply hnone (Int32.ofInt n)
    rwa [readInt32?_eq_some_iff, Int32.toInt_ofInt_of_le hlow hhigh]
  · intro hall x hx
    exact hall x.toInt (readInt32?_eq_some_iff.mp hx) ⟨x.le_toInt, x.toInt_lt⟩

/-! ### Written integers -/

theorem digits_writeNat (n : Nat) : Digits (writeNat n) :=
  (readNat?_eq_some_iff.mp (readNat?_writeNat n)).1

/-- A written number has no leading zero. -/
theorem head?_writeNat {n : Nat} (h : 0 < n) : (writeNat n).head? ≠ some '0' := by
  induction n using Nat.strongRecOn with
  | ind n ih =>
    unfold writeNat
    by_cases hlt : n < 10
    · rw [Nat.toDigits_of_lt_base hlt, List.head?_singleton, Ne, Option.some_inj]
      have hdigit : ∀ k < 10, 0 < k → k.digitChar ≠ '0' := by decide
      exact hdigit n hlt h
    · have hle : 10 ≤ n := Nat.le_of_not_lt hlt
      rw [Nat.toDigits_of_base_le (by decide) hle,
        List.head?_append_of_ne_nil _ Nat.toDigits_ne_nil]
      exact ih (n / 10) (by omega) (by omega)

theorem numeral_writeInt (n : Int) : Numeral (writeInt n) n := by
  have hvalue (k : Nat) : digitsValue (writeNat k) = k :=
    (readNat?_eq_some_iff.mp (readNat?_writeNat k)).2.symm
  cases n with
  | ofNat k =>
    have h := Numeral.unsigned (digits_writeNat k)
    rwa [hvalue] at h
  | negSucc k =>
    have h := Numeral.minus (digits_writeNat (k + 1))
    rwa [hvalue] at h

theorem readInt32?_writeInt (x : Int32) : readInt32? (writeInt x.toInt) = some x :=
  readInt32?_eq_some_iff.mpr (numeral_writeInt x.toInt)

end AccumulatorMachine.Text
