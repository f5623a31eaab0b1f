import AccumulatorMachine.Instruction
import AccumulatorMachine.Proofs.Text.Decimal
import AccumulatorMachine.Proofs.Text.Words
import Mathlib.Logic.Relation

/-! The grammar of program lines: which lines are blank, which are instructions, and what is wrong with
the others. -/
namespace AccumulatorMachine.Instruction

open Text

/-! ### Blanks that do not matter -/

/-- Blanks that part what is around them, as tabs alone do not. -/
structure Parts (cs : List Char) : Prop where
  blanks : Blanks cs
  exists_ne_tab : ∃ c ∈ cs, c ≠ '\t'

/-- One change to the blanks of a line. -/
inductive Respaces : List Char → List Char → Prop
  | tab (before after : List Char) : Respaces (before ++ after) (before ++ '\t' :: after)
  | front {blanks blanks' : List Char} (h : Blanks blanks) (h' : Blanks blanks') (rest : List Char) :
      Respaces (blanks ++ rest) (blanks' ++ rest)
  | between {blanks blanks' : List Char} (h : Parts blanks) (h' : Parts blanks')
      (before after : List Char) :
      Respaces (before ++ blanks ++ after) (before ++ blanks' ++ after)
  | back {blanks blanks' : List Char} (h : Blanks blanks) (h' : Blanks blanks') (rest : List Char) :
      Respaces (rest ++ blanks) (rest ++ blanks')

/-- Any number of such changes, made or taken back. -/
def Respaced : List Char → List Char → Prop := Relation.EqvGen Respaces

/-- A line without its tabs. -/
def untabbed (cs : List Char) : List Char := cs.filter (· ≠ '\t')

theorem tokens_eq (line : String) : tokens line = words (untabbed line.toList) := rfl

theorem untabbed_append (cs ds : List Char) : untabbed (cs ++ ds) = untabbed cs ++ untabbed ds :=
  List.filter_append cs ds

theorem blanks_untabbed {blanks : List Char} (h : Blanks blanks) : Blanks (untabbed blanks) :=
  fun c hc => h c (List.mem_filter.mp hc).1

theorem Parts.untabbed_ne_nil {blanks : List Char} (h : Parts blanks) : untabbed blanks ≠ [] := by
  obtain ⟨c, hc, hne⟩ := h.exists_ne_tab
  have hmem : c ∈ untabbed blanks := by simpa [untabbed, hne] using hc
  exact List.ne_nil_of_mem hmem

theorem Respaces.words_eq {cs ds : List Char} (h : Respaces cs ds) :
    words (untabbed cs) = words (untabbed ds) := by
  cases h with
  | tab before after => simp [untabbed]
  | front h h' rest =>
    rw [untabbed_append, untabbed_append, words_blanks_append (blanks_untabbed h),
      words_blanks_append (blanks_untabbed h')]
  | between h h' before after =>
    simp only [untabbed_append]
    rw [words_append_blanks_append (blanks_untabbed h.blanks) h.untabbed_ne_nil,
      words_append_blanks_append (blanks_untabbed h'.blanks) h'.untabbed_ne_nil]
  | back h h' rest =>
    rw [untabbed_append, untabbed_append, words_append_blanks (blanks_untabbed h),
      words_append_blanks (blanks_untabbed h')]

theorem Respaced.words_eq {cs ds : List Char} (h : Respaced cs ds) :
    words (untabbed cs) = words (untabbed ds) := by
  induction h with
  | rel _ _ h => exact h.words_eq
  | refl => rfl
  | symm _ _ _ ih => exact ih.symm
  | trans _ _ _ _ _ ih ih' => exact ih.trans ih'

theorem ofLine_congr {line line' : String} (h : tokens line = tokens line') :
    ofLine line = ofLine line' := by
  rw [ofLine, h, ofLine]

/-! ### Lines by their tokens -/

/-- The ways in which the tokens of a line can come out. -/
inductive Reads (line : String) : Except LineError Instruction → Prop
  | blank (h : tokens line = []) : Reads line (.ok .blank)
  | written {x y : List Char} {n : Int32} (h : tokens line = [x, y]) (hn : readInt32? y = some n) :
      Reads line (.ok (.written (lowercase (String.ofList x)) n))
  | invalid {x y : List Char} (h : tokens line = [x, y]) (hn : readInt32? y = none) :
      Reads line (.error (.invalidOperand (String.ofList y)))
  | malformed (hnil : tokens line ≠ []) (hpair : ∀ x y, tokens line ≠ [x, y]) :
      Reads line (.error (.malformed (tokens line).length))

theorem reads_ofLine (line : String) : Reads line (ofLine line) := by
  unfold ofLine
  split
  · next h => exact .blank h
  · next x y h =>
    split
    · next n hn => exact .written h hn
    · next hn => exact .invalid h hn
  · next hnil hpair => exact .malformed hnil hpair

theorem ofLine_eq_blank_iff {line : String} : ofLine line = .ok .blank ↔ tokens line = [] := by
  constructor
  · intro h
    have hreads := reads_ofLine line
    rw [h] at hreads
    cases hreads with
    | blank htokens => exact htokens
  · intro h
    rw [ofLine, h]

theorem ofLine_eq_written_iff {line o : String} {n : Int32} :
    ofLine line = .ok (.written o n) ↔
      ∃ x y, tokens line = [x, y] ∧ readInt32? y = some n ∧ o = lowercase (String.ofList x) := by
  constructor
  · intro h
    have hreads := reads_ofLine line
    rw [h] at hreads
    cases hreads with
    | written htokens hn => exact ⟨_, _, htokens, hn, rfl⟩
  · rintro ⟨x, y, h, hn, rfl⟩
    simp only [ofLine, h, hn, ofParts]

theorem ofLine_eq_invalidOperand_iff {line text : String} :
    ofLine line = .error (.invalidOperand text) ↔
      (∃ x, tokens line = [x, text.toList]) ∧ readInt32? text.toList = none := by
  constructor
  · intro h
    have hreads := reads_ofLine line
    rw [h] at hreads
    cases hreads with
    | invalid htokens hn =>
      rw [String.toList_ofList]
      exact ⟨⟨_, htokens⟩, hn⟩
  · rintro ⟨⟨x, h⟩, hn⟩
    simp only [ofLine, h, hn, String.ofList_toList]

theorem ofLine_eq_malformed_iff {line : String} {k : Nat} :
    ofLine line = .error (.malformed k) ↔
      tokens line ≠ [] ∧ (∀ x y, tokens line ≠ [x, y]) ∧ (tokens line).length = k := by
  constructor
  · intro h
    have hreads := reads_ofLine line
    rw [h] at hreads
    cases hreads with
    | malformed hnil hpair => exact ⟨hnil, hpair, rfl⟩
  · rintro ⟨hnil, hpair, rfl⟩
    have hreads := reads_ofLine line
    generalize ofLine line = r at hreads
    cases hreads with
    | blank h => exact absurd h hnil
    | written h | invalid h => exact absurd h (hpair _ _)
    | malformed => rfl

/-- What a line is, once its tabs are dropped. It is the step over a blank line if only blanks are left.
It is an instruction if two words are left, with blanks between them and perhaps around them, of
which the second denotes an integer of 32 bits; the first is the opcode, in lower case. If the second
denotes none, it is refused as the operand. Any other line is malformed, with the number of its
words. So tabs anywhere, and the number and kind of the blanks around and between the tokens, do
not matter, as long as a blank other than a tab parts two tokens. -/
theorem ofLine_grammar (line : String) :
    (ofLine line = .ok .blank ↔ Blanks (untabbed line.toList)) ∧
    (∀ o n, ofLine line = .ok (.written o n) ↔
      ∃ x y, Pair (untabbed line.toList) x y ∧ Numeral y n.toInt ∧
        o = lowercase (String.ofList x)) ∧
    (∀ text, ofLine line = .error (.invalidOperand text) ↔
      (∃ x, Pair (untabbed line.toList) x text.toList) ∧
        ∀ n, Numeral text.toList n → ¬ (-2 ^ 31 ≤ n ∧ n < 2 ^ 31)) ∧
    (∀ k, ofLine line = .error (.malformed k) ↔
      ¬ Blanks (untabbed line.toList) ∧ (∀ x y, ¬ Pair (untabbed line.toList) x y) ∧
        ∃ ws, Runs (untabbed line.toList) ws ∧ ws.length = k) ∧
    ∀ line', Respaced line.toList line'.toList → ofLine line' = ofLine line := by
  have htokens := tokens_eq line
  refine ⟨?_, fun o n => ?_, fun text => ?_, fun k => ?_, fun line' h => ?_⟩
  · rw [ofLine_eq_blank_iff, htokens, words_eq_nil_iff]
  · simp only [ofLine_eq_written_iff, htokens, words_eq_pair_iff, readInt32?_eq_some_iff]
  · simp only [ofLine_eq_invalidOperand_iff, htokens, words_eq_pair_iff, readInt32?_eq_none_iff]
  · have hruns : (∃ ws, Runs (untabbed line.toList) ws ∧ ws.length = k) ↔
        (words (untabbed line.toList)).length = k := by
      simp only [← words_eq_iff_runs, exists_eq_left']
    rw [ofLine_eq_malformed_iff, htokens, ne_eq, words_eq_nil_iff, hruns]
    simp only [ne_eq, words_eq_pair_iff]
  · exact ofLine_congr h.words_eq.symm

/-- Leading zeros and a sign are read, and the blank of an em space counts like any other. -/
theorem ofLine_grammar_respaced :
    Respaced "add +07".toList "\ta\tdd\u2003+07".toList ∧
      ofLine "\ta\tdd\u2003+07" = .ok (.written "add" 7) := by
  have hspace : Parts [' '] := ⟨by simp [Blanks]; decide, by simp⟩
  have hwide : Parts ['\u2003'] := ⟨by simp [Blanks]; decide, by simp⟩
  have hrespaced : Respaced "add +07".toList "\ta\tdd\u2003+07".toList := by
    refine .trans _ "\tadd +07".toList _ (.rel _ _ (.tab [] "add +07".toList)) ?_
    refine .trans _ "\ta\tdd +07".toList _ (.rel _ _ (.tab "\ta".toList "dd +07".toList)) ?_
    exact .rel _ _ (.between hspace hwide "\ta\tdd".toList "+07".toList)
  obtain ⟨-, -, -, -, hsame⟩ := ofLine_grammar "add +07"
  have hline : ofLine "add +07" = .ok (.written "add" 7) := by decide
  exact ⟨hrespaced, (hsame _ hrespaced).trans hline⟩

end AccumulatorMachine.Instruction
