import AccumulatorMachine.Proofs.Text.Decimal
import Mathlib.Data.List.TakeWhile

/-! Integers are spelt in many ways, with a sign or without, with zeros in front and with blanks around
them. -/
namespace AccumulatorMachine.Text

/-! ### Blanks around a text -/

theorem trimLeft_blanks_append {blanks : List Char} (h : Blanks blanks) (cs : List Char) :
    trimLeft (blanks ++ cs) = trimLeft cs :=
  List.dropWhile_append_of_pos h

theorem trimRight_append_blanks {blanks : List Char} (h : Blanks blanks) (cs : List Char) :
    trimRight (cs ++ blanks) = trimRight cs := by
  have hreverse : Blanks blanks.reverse := fun c hc => h c (List.mem_reverse.mp hc)
  rw [trimRight, trimRight, List.reverse_append, List.dropWhile_append_of_pos hreverse]

theorem Word.trimLeft_append {w : List Char} (h : Word w) (cs : List Char) :
    trimLeft (w ++ cs) = w ++ cs := by
  obtain ⟨c, w, rfl⟩ := List.exists_cons_of_ne_nil h.ne_nil
  have hc : isBlank c = false := h.solid c List.mem_cons_self
  exact List.dropWhile_cons_of_neg (by simp [hc])

theorem Word.trimRight_eq {w : List Char} (h : Word w) : trimRight w = w := by
  have hreverse : Word w.reverse :=
    ⟨fun hnil => h.ne_nil (List.reverse_eq_nil_iff.mp hnil),
      fun c hc => h.solid c (List.mem_reverse.mp hc)⟩
  have htrim : trimLeft w.reverse = w.reverse := by simpa using hreverse.trimLeft_append []
  rw [trimLeft] at htrim
  rw [trimRight, htrim, List.reverse_reverse]

theorem Word.trim_eq {before w after : List Char} (hw : Word w) (hbefore : Blanks before)
    (hafter : Blanks after) : trim (before ++ w ++ after) = w := by
  rw [trim, List.append_assoc, trimLeft_blanks_append hbefore, hw.trimLeft_append,
    trimRight_append_blanks hafter, hw.trimRight_eq]

/-- What is trimmed off is blank. -/
theorem exists_blanks_trim (cs : List Char) :
    ∃ before after, Blanks before ∧ Blanks after ∧ cs = before ++ trim cs ++ after := by
  have hleft : cs = cs.takeWhile isBlank ++ trimLeft cs := List.takeWhile_append_dropWhile.symm
  have hright : trimLeft cs = trim cs ++ ((trimLeft cs).reverse.takeWhile isBlank).reverse := by
    rw [trim, trimRight, ← List.reverse_append, List.takeWhile_append_dropWhile, List.reverse_reverse]
  refine ⟨cs.takeWhile isBlank, ((trimLeft cs).reverse.takeWhile isBlank).reverse, ?_, ?_, ?_⟩
  · exact fun c hc => List.mem_takeWhile_imp hc
  · exact fun c hc => List.mem_takeWhile_imp (List.mem_reverse.mp hc)
  · rw [List.append_assoc, ← hright]
    exact hleft

/-! ### Spellings -/

/-- The texts that spell an integer: its numerals, with any blanks around them. -/
inductive Spells : String → Int32 → Prop
  | mk {before cs after : List Char} {x : Int32} (hbefore : Blanks before)
      (hnumeral : Numeral cs x.toInt) (hafter : Blanks after) :
      Spells (String.ofList (before ++ cs ++ after)) x

theorem readInt32?_trim_eq_some_iff {text : String} {x : Int32} :
    readInt32? (trim text.toList) = some x ↔ Spells text x := by
  constructor
  · intro h
    obtain ⟨before, after, hbefore, hafter, htext⟩ := exists_blanks_trim text.toList
    rw [← String.ofList_toList (s := text), htext]
    exact .mk hbefore (readInt32?_eq_some_iff.mp h) hafter
  · rintro ⟨hbefore, hnumeral, hafter⟩
    rw [String.toList_ofList, hnumeral.word.trim_eq hbefore hafter]
    exact readInt32?_eq_some_iff.mpr hnumeral

/-- The written integer is one of its spellings. -/
theorem spells_decimal32 (x : Int32) : Spells (decimal32 x) x := by
  have h : Spells (String.ofList ([] ++ writeInt x.toInt ++ [])) x :=
    .mk blanks_nil (numeral_writeInt x.toInt) blanks_nil
  rwa [List.nil_append, List.append_nil] at h

end AccumulatorMachine.Text
