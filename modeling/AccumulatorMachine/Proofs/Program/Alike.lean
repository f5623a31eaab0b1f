import AccumulatorMachine.Proofs.Instruction.Grammar
import AccumulatorMachine.Proofs.Text.Lines
import AccumulatorMachine.Program

/-! Programs with the same instructions, of which one may have a blank line more at its end. -/
namespace AccumulatorMachine

open Text

/-- A return is blank, so none at the end of a line changes the instruction. -/
theorem Instruction.ofLine_dropReturn (l : List Char) :
    ofLine (String.ofList (dropReturn l)) = ofLine (String.ofList l) := by
  apply ofLine_congr
  unfold dropReturn
  split
  · next h =>
    obtain ⟨l, rfl⟩ := List.getLast?_eq_some_iff.mp h
    have hblank : Blanks ['\r'] := by decide
    have hback : Respaces (l ++ []) (l ++ ['\r']) := .back (by decide) hblank l
    rw [List.dropLast_concat, tokens_eq, tokens_eq, String.toList_ofList, String.toList_ofList]
    rw [List.append_nil] at hback
    exact hback.words_eq
  · rfl

theorem Problem.ofLine?_congr {line line' : String}
    (h : Instruction.ofLine line = Instruction.ofLine line') : ofLine? line = ofLine? line' := by
  rw [ofLine?, h, ofLine?]

theorem Problem.ofLine?_of_blank {line : String} (h : Instruction.ofLine line = .ok .blank) :
    ofLine? line = none := by
  rw [ofLine?, h]
  rfl

namespace Program

inductive Alike : Program → Program → Prop
  | nil : Alike [] []
  | blank {line' : String} (h : Instruction.ofLine line' = .ok .blank) : Alike [] [line']
  | cons {line line' : String} {p p' : Program}
      (h : Instruction.ofLine line = Instruction.ofLine line') (hrest : Alike p p') :
      Alike (line :: p) (line' :: p')

theorem alike_resplit (ls : List (List Char)) :
    Alike ((resplit ls).map String.ofList) (ls.map String.ofList) := by
  fun_induction resplit ls with
  | case1 => exact .nil
  | case2 => exact .blank (by simp [Instruction.ofLine, Instruction.tokens])
  | case3 l _ => exact .cons rfl .nil
  | case4 l l' ls ih => exact .cons (Instruction.ofLine_dropReturn l) ih

theorem Alike.problems {p p' : Program} (h : p.Alike p') : p.problems = p'.problems := by
  unfold Program.problems
  generalize 1 = number
  induction h generalizing number with
  | nil => rfl
  | blank h => simp [Problem.ofLine?_of_blank h]
  | cons h _ ih => simp only [List.zipIdx_cons, List.filterMap_cons, Problem.ofLine?_congr h, ih]

/-- What two programs have at one index. -/
inductive Faces (p p' : Program) (pc : Int) : Prop
  | inside {line line' : String} (h : p.lineAt? pc = some line) (h' : p'.lineAt? pc = some line')
      (hsame : Instruction.ofLine line = Instruction.ofLine line')
  | outside (h : p.lineAt? pc = none) (h' : p'.lineAt? pc = none)
  /-- The second program has its blank line there. -/
  | last {line' : String} (h : p.lineAt? pc = none) (h' : p'.lineAt? pc = some line')
      (hblank : Instruction.ofLine line' = .ok .blank) (hend : p'.lineAt? (pc + 1) = none)

theorem Faces.succ {p p' : Program} {n : Nat} {line line' : String} (h : Faces p p' n) :
    Faces (line :: p) (line' :: p') ((n + 1 : Nat) : Int) := by
  have hcons (q : Program) (l : String) (i : Nat) : lineAt? (l :: q) ((i + 1 : Nat) : Int) = q.lineAt? i :=
    List.getElem?_cons_succ
  cases h with
  | inside h h' hsame => exact .inside ((hcons ..).trans h) ((hcons ..).trans h') hsame
  | outside h h' => exact .outside ((hcons ..).trans h) ((hcons ..).trans h')
  | last h h' hblank hend =>
    exact .last ((hcons ..).trans h) ((hcons ..).trans h') hblank ((hcons _ _ (n + 1)).trans hend)

theorem Alike.faces {p p' : Program} (h : p.Alike p') (pc : Int) : Faces p p' pc := by
  cases pc with
  | negSucc n => exact .outside rfl rfl
  | ofNat n =>
    induction h generalizing n with
    | nil => exact .outside rfl rfl
    | blank h =>
      cases n with
      | zero => exact .last rfl rfl h rfl
      | succ n => exact .outside rfl rfl
    | cons h _ ih =>
      cases n with
      | zero => exact .inside rfl rfl h
      | succ n => exact (ih n).succ

end Program

end AccumulatorMachine
