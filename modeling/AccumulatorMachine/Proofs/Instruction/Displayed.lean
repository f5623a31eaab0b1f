import AccumulatorMachine.Listing
import AccumulatorMachine.Proofs.Instruction.Grammar
import AccumulatorMachine.Proofs.Text.Case

/-! What an instruction displays is read as the same operation with the same operand, unless its opcode
is no mnemonic and becomes one in upper case. -/
namespace AccumulatorMachine

open Text

namespace Opcode

/-! ### Mnemonics -/

theorem map_toLower_mnemonic (o : Opcode) :
    o.mnemonic.toList.map Char.toLower = o.mnemonic.toList := by
  have hall : ∀ o ∈ all, o.mnemonic.toList.map Char.toLower = o.mnemonic.toList := by decide
  exact hall o o.mem_all

theorem letters_mnemonic (o : Opcode) : Letters o.mnemonic.toList := by
  have hall : ∀ o ∈ all, o.mnemonic.toList.all Char.isAlpha = true := by decide
  exact List.all_eq_true.mp (hall o o.mem_all)

theorem length_mnemonic (o : Opcode) : o.mnemonic.toList.length = 3 := by
  have hall : ∀ o ∈ all, o.mnemonic.toList.length = 3 := by decide
  exact hall o o.mem_all

theorem mnemonic_injective {o o' : Opcode} (h : o.mnemonic.toList = o'.mnemonic.toList) : o = o' := by
  have hall : ∀ o ∈ all, ∀ o' ∈ all, o.mnemonic.toList = o'.mnemonic.toList → o = o' := by
    decide
  exact hall o o.mem_all o' o'.mem_all h

theorem equalsIgnoringAsciiCase_mnemonic {o : Opcode} {s : String} :
    equalsIgnoringAsciiCase o.mnemonic s = true ↔ s.toList.map Char.toLower = o.mnemonic.toList := by
  rw [equalsIgnoringAsciiCase, beq_iff_eq, map_toLower_mnemonic, eq_comm]

theorem ofMnemonic?_eq_some_iff {s : String} {o : Opcode} :
    ofMnemonic? s = some o ↔ s.toList.map Char.toLower = o.mnemonic.toList := by
  have hfound {o : Opcode} (h : ofMnemonic? s = some o) :
      s.toList.map Char.toLower = o.mnemonic.toList := by
    rw [ofMnemonic?] at h
    have heq := List.find?_some h
    exact equalsIgnoringAsciiCase_mnemonic.mp heq
  constructor
  · exact hfound
  · intro h
    have hsome : (ofMnemonic? s).isSome = true :=
      List.find?_isSome.mpr ⟨o, o.mem_all, equalsIgnoringAsciiCase_mnemonic.mpr h⟩
    obtain ⟨o', ho'⟩ := Option.isSome_iff_exists.mp hsome
    rw [ho', mnemonic_injective ((hfound ho').symm.trans h)]

/-! ### Texts that become mnemonics -/

/-- The texts in lower case that are not this mnemonic and are displayed like it. They hold a long s, a
ligature of one or a dotless i. -/
def lookalikes : Opcode → List String
  | .set => ["ſet"]
  | .arith .sub => ["ſub"]
  | .arith .div => ["dıv"]
  | .store => ["ſta", "ﬅa", "ﬆa"]
  | .input => ["ınp"]
  | _ => []

/-- The upper case of a character, compared without regard to case. -/
def folded (c : Char) : List Char := (upperChar c).map Char.toLower

/-- The characters of a text in lower case that letters alone replace in upper case. -/
def spelling : List Char := "abcdefghijklmnopqrstuvwxyz".toList ++ ligatures

/-- The texts of at most so many such characters that fold to this one. -/
def spellings : Nat → List Char → List (List Char)
  | _, [] => [[]]
  | 0, _ :: _ => []
  | n + 1, target => spelling.flatMap fun c =>
      if folded c <+: target then (spellings n (target.drop (folded c).length)).map (c :: ·) else []

theorem mem_spelling {c : Char} (hlowered : Lowered c) (h : c.isAlpha = true ∨ c ∈ ligatures) :
    c ∈ spelling := by
  obtain halpha | hligature := h
  · have hascii : c.isAlpha = true → c.isUpper = false → c ∈ spelling :=
      of_ascii (P := fun c => c.isAlpha = true → c.isUpper = false → c ∈ spelling)
        (by decide) (toNat_of_isAlpha halpha).2
    exact hascii halpha hlowered.not_isUpper
  · exact List.mem_append_right _ hligature

theorem folded_ne_nil {c : Char} (h : c ∈ spelling) : folded c ≠ [] := by
  have hall : ∀ cs ∈ spelling.map folded, cs ≠ [] := by decide
  exact hall _ (List.mem_map_of_mem h)

theorem mem_spellings {n : Nat} {cs : List Char} (hn : cs.length ≤ n) (h : ∀ c ∈ cs, c ∈ spelling) :
    cs ∈ spellings n (cs.flatMap folded) := by
  induction cs generalizing n with
  | nil =>
    cases n with
    | zero => exact List.mem_cons_self
    | succ n => exact List.mem_cons_self
  | cons c cs ih =>
    obtain ⟨hc, hcs⟩ := List.forall_mem_cons.mp h
    cases n with
    | zero => cases hn
    | succ n =>
      have hrest : cs ∈ spellings n (cs.flatMap folded) := ih (Nat.le_of_succ_le_succ hn) hcs
      rw [List.flatMap_cons, spellings]
      · refine List.mem_flatMap.mpr ⟨c, hc, ?_⟩
        rw [if_pos (List.prefix_append _ _), List.drop_left]
        exact List.mem_map_of_mem hrest
      · exact List.append_ne_nil_of_left_ne_nil (folded_ne_nil hc) _

theorem length_le_of_flatMap_folded {cs : List Char} (h : ∀ c ∈ cs, c ∈ spelling) :
    cs.length ≤ (cs.flatMap folded).length := by
  induction cs with
  | nil => exact Nat.le_refl 0
  | cons c cs ih =>
    obtain ⟨hc, hcs⟩ := List.forall_mem_cons.mp h
    have hpositive : 0 < (folded c).length := List.length_pos_iff.mpr (folded_ne_nil hc)
    have hrest := ih hcs
    rw [List.flatMap_cons, List.length_append, List.length_cons]
    omega

theorem mem_spellings_mnemonic (o : Opcode) {cs : List Char}
    (h : cs ∈ spellings 3 o.mnemonic.toList) :
    cs = o.mnemonic.toList ∨ String.ofList cs ∈ o.lookalikes := by
  have hall : ∀ o ∈ all, ∀ cs ∈ spellings 3 o.mnemonic.toList,
      cs = o.mnemonic.toList ∨ String.ofList cs ∈ o.lookalikes := by
    decide
  exact hall o o.mem_all cs h

theorem letters_of_map_toLower {o : Opcode} {cs : List Char}
    (h : cs.map Char.toLower = o.mnemonic.toList) : Letters cs := by
  intro c hc
  have hlower : c.toLower.isAlpha = true := by
    apply letters_mnemonic o
    rw [← h]
    exact List.mem_map_of_mem hc
  rwa [isAlpha_toLower] at hlower

/-- A text in lower case that reads as a mnemonic after its display is the mnemonic or looks like it. -/
theorem mnemonic_or_mem_lookalikes {o : Opcode} {cs : List Char} (hlowered : ∀ c ∈ cs, Lowered c)
    (h : (lower (upper cs)).map Char.toLower = o.mnemonic.toList) :
    cs = o.mnemonic.toList ∨ String.ofList cs ∈ o.lookalikes := by
  have hkelvin : kelvin ∉ cs := fun hmem => (hlowered kelvin hmem).ne_kelvin rfl
  have hupper : Letters (upper cs) :=
    letters_of_lower (letters_of_map_toLower h) (kelvin_not_mem_upper hkelvin)
  have hspelling : ∀ c ∈ cs, c ∈ spelling := fun c hc =>
    mem_spelling (hlowered c hc) (isAlpha_or_mem_ligatures_of_upper hupper hc)
  have hfolded : cs.flatMap folded = o.mnemonic.toList := by
    rw [lower_of_letters hupper, map_toLower_map_toLower, upper, List.map_flatMap] at h
    exact h
  have hlength : cs.length ≤ 3 := by
    have hle := length_le_of_flatMap_folded hspelling
    rwa [hfolded, length_mnemonic] at hle
  have hmem := mem_spellings hlength hspelling
  rw [hfolded] at hmem
  exact mem_spellings_mnemonic o hmem

theorem lookalikes_displayed {o : Opcode} {s : String} (h : s ∈ o.lookalikes) :
    ofMnemonic? s = none ∧ o ≠ .hop ∧ ofMnemonic? (lowercase (uppercase s)) = some o := by
  have hall : ∀ o ∈ all, ∀ s ∈ o.lookalikes,
      ofMnemonic? s = none ∧ o ≠ .hop ∧ ofMnemonic? (lowercase (uppercase s)) = some o := by
    decide
  exact hall o o.mem_all s h

theorem ofMnemonic?_displayed_iff {s : String} {o : Opcode} (h : ∀ c ∈ s.toList, Lowered c) :
    ofMnemonic? (lowercase (uppercase s)) = some o ↔ ofMnemonic? s = some o ∨ s ∈ o.lookalikes := by
  have hdisplayed : (lowercase (uppercase s)).toList = lower (upper s.toList) := by
    simp [lowercase, uppercase]
  constructor
  · intro hsome
    rw [ofMnemonic?_eq_some_iff, hdisplayed] at hsome
    obtain hmnemonic | hlookalike := mnemonic_or_mem_lookalikes h hsome
    · left
      rw [ofMnemonic?_eq_some_iff, hmnemonic, map_toLower_mnemonic]
    · right
      rwa [String.ofList_toList] at hlookalike
  · rintro (hsome | hlookalike)
    · rw [ofMnemonic?_eq_some_iff] at hsome
      rw [ofMnemonic?_eq_some_iff, hdisplayed, lower_upper_of_letters (letters_of_map_toLower hsome),
        map_toLower_map_toLower, hsome]
    · exact (lookalikes_displayed hlookalike).2.2

end Opcode

namespace Instruction

/-! ### Displayed lines -/

theorem untabbed_of_word {w : List Char} (h : Word w) : untabbed w = w := by
  refine List.filter_eq_self.mpr fun c hc => ?_
  have hne : c ≠ '\t' := by
    rintro rfl
    cases h.solid _ hc
  exact decide_eq_true hne

theorem display_written (o : String) (n : Int32) :
    (written o n).display.toList = upper o.toList ++ ' ' :: writeInt n.toInt := by
  rw [display, cells, String.intercalate_cons_cons]
  simp [uppercase, decimal32]

theorem tokens_display {o : String} {n : Int32} (h : Word o.toList) :
    tokens (written o n).display = [upper o.toList, writeInt n.toInt] := by
  have hoperand : Word (writeInt n.toInt) := (numeral_writeInt n.toInt).word
  have hspace : untabbed (' ' :: writeInt n.toInt) = ' ' :: writeInt n.toInt := by
    show ' ' :: untabbed (writeInt n.toInt) = _
    rw [untabbed_of_word hoperand]
  rw [tokens_eq, display_written, untabbed_append, untabbed_of_word h.upper, hspace,
    words_append_cons _ _ (by decide), h.upper.words_eq, hoperand.words_eq]
  rfl

theorem ofLine_display_written {o : String} (n : Int32) (h : Word o.toList) :
    ofLine (written o n).display = .ok (.written (lowercase (uppercase o)) n) :=
  ofLine_eq_written_iff.mpr ⟨_, _, tokens_display h, readInt32?_writeInt n, rfl⟩

theorem opcode?_written_iff {o : String} {n : Int32} {op : Opcode} :
    (written o n).opcode? = some op ↔ Opcode.ofMnemonic? o = some op ∧ op ≠ .hop := by
  simp [opcode?, Option.filter_eq_some_iff]

theorem opcode?_displayed_iff {o : String} {n : Int32} {op : Opcode}
    (h : ∀ c ∈ o.toList, Lowered c) :
    (written (lowercase (uppercase o)) n).opcode? = some op ↔
      (written o n).opcode? = some op ∨ o ∈ op.lookalikes := by
  rw [opcode?_written_iff, opcode?_written_iff, Opcode.ofMnemonic?_displayed_iff h]
  constructor
  · rintro ⟨hsome | hlookalike, hhop⟩
    · exact .inl ⟨hsome, hhop⟩
    · exact .inr hlookalike
  · rintro (⟨hsome, hhop⟩ | hlookalike)
    · exact ⟨.inl hsome, hhop⟩
    · exact ⟨.inr hlookalike, (Opcode.lookalikes_displayed hlookalike).2.1⟩

theorem opcodeText_blank_not_mem_lookalikes (op : Opcode) : opcodeText .blank ∉ op.lookalikes := by
  intro h
  have hnone := (Opcode.lookalikes_displayed h).1
  rw [opcodeText, Opcode.ofMnemonic?_eq_some_iff.mpr (Opcode.map_toLower_mnemonic .hop)] at hnone
  cases hnone

/-- An instruction that a line is read as has its opcode in lower case. -/
inductive Lowercase : Instruction → Prop
  | blank : Lowercase .blank
  | written {o : String} {n : Int32} (hword : Word o.toList) (hlowered : ∀ c ∈ o.toList, Lowered c) :
      Lowercase (.written o n)

theorem lowercase_of_ofLine {line : String} {i : Instruction} (h : ofLine line = .ok i) :
    Lowercase i := by
  have hreads := reads_ofLine line
  rw [h] at hreads
  cases hreads with
  | blank => exact .blank
  | @written x y n htokens hn =>
    have hx : Word x := (words_eq_pair_iff.mp htokens).word_left
    have hopcode : (lowercase (String.ofList x)).toList = lower x := by simp [lowercase]
    constructor
    · rw [hopcode]
      exact hx.lower
    · rw [hopcode]
      exact fun c hc => lowered_of_mem_lower hc

theorem Lowercase.display_read {i : Instruction} (h : Lowercase i) :
    ∃ j, ofLine i.display = .ok j ∧ j.operand = i.operand ∧
      ∀ op : Opcode, j.opcode? = some op ↔ i.opcode? = some op ∨ i.opcodeText ∈ op.lookalikes := by
  cases h with
  | blank =>
    have hempty : ofLine (display .blank) = .ok .blank := by decide
    refine ⟨.blank, hempty, rfl, fun op => ?_⟩
    constructor
    · exact .inl
    · rintro (hsome | hlookalike)
      · exact hsome
      · exact absurd hlookalike (opcodeText_blank_not_mem_lookalikes op)
  | @written o n hword hlowered =>
    refine ⟨.written (lowercase (uppercase o)) n, ofLine_display_written n hword, ?_, fun op => ?_⟩
    · simp only [operand]
    · exact opcode?_displayed_iff hlowered

theorem opcode?_of_mem_lookalikes {i : Instruction} {op : Opcode} (h : i.opcodeText ∈ op.lookalikes) :
    i.opcode? = none := by
  cases i with
  | blank => exact absurd h (opcodeText_blank_not_mem_lookalikes op)
  | written o n =>
    have hnone : Opcode.ofMnemonic? o = none := (Opcode.lookalikes_displayed h).1
    rw [opcode?, hnone, Option.filter_none]

/-- The row of a listing ends with what the instruction of its line displays. -/
theorem programTable_shows {p : Program} {index : Nat} {line : String} {i : Instruction} (pc : Int)
    (hline : p[index]? = some line) (h : ofLine line = .ok i) :
    ∃ row, (Listing.programTable p pc)[index]? = some row ∧
      " ".intercalate (row.drop 2) = i.display := by
  refine ⟨Listing.programRow pc line index, ?_, ?_⟩
  · simp [Listing.programTable, List.getElem?_zipIdx, hline]
  · simp [Listing.programRow, h, display]

/-- What an instruction displays, which is also what a listing shows of its line, is read as an instruction
with the same operand and the same operation, or none. The exceptions are seven opcodes that are no
mnemonic and look like one in upper case: the machine rejects the line, and would execute what it
displays. -/
theorem ofLine_display {line : String} {i : Instruction} (h : ofLine line = .ok i) :
    (∃ j, ofLine i.display = .ok j ∧ j.operand = i.operand ∧
      ∀ op : Opcode, j.opcode? = some op ↔ i.opcode? = some op ∨ i.opcodeText ∈ op.lookalikes) ∧
    (∀ op : Opcode, i.opcodeText ∈ op.lookalikes → i.opcode? = none) ∧
    ∀ (p : Program) (pc : Int) (index : Nat), p[index]? = some line →
      ∃ row, (Listing.programTable p pc)[index]? = some row ∧
        " ".intercalate (row.drop 2) = i.display := by
  refine ⟨?_, ?_, ?_⟩
  · exact (lowercase_of_ofLine h).display_read
  · exact fun op hmem => opcode?_of_mem_lookalikes hmem
  · exact fun p pc index hline => programTable_shows pc hline h

/-- Blanks and case apart, an instruction is displayed as it was written. -/
theorem ofLine_display_store :
    ofLine " sTa\t +04" = .ok (.written "sta" 4) ∧ display (.written "sta" 4) = "STA 4" ∧
      ∃ j, ofLine "STA 4" = .ok j ∧ j.operand = 4 ∧ j.opcode? = some .store := by
  have hline : ofLine " sTa\t +04" = .ok (.written "sta" 4) := by decide
  have hdisplay : display (.written "sta" 4) = "STA 4" := by decide
  obtain ⟨⟨j, hread, hoperand, hopcode⟩, -, -⟩ := ofLine_display hline
  rw [hdisplay] at hread
  exact ⟨hline, hdisplay, j, hread, hoperand, (hopcode .store).mpr (.inl (by decide))⟩

/-- A long s becomes the capital of an ordinary one. The opcode is unknown, and its display sets the
memory. -/
theorem ofLine_display_long_s :
    ¬ ∀ line i, ofLine line = .ok i →
      ∃ j, ofLine i.display = .ok j ∧ j.operand = i.operand ∧ j.opcode? = i.opcode? := by
  intro hall
  have hline : ofLine "ſet 1" = .ok (.written "ſet" 1) := by decide
  have hread : ofLine (display (.written "ſet" 1)) = .ok (.written "set" 1) := by decide
  obtain ⟨j, hj, -, hopcode⟩ := hall "ſet 1" _ hline
  rw [hread] at hj
  cases hj
  revert hopcode
  decide

end Instruction

end AccumulatorMachine
