import AccumulatorMachine.Proofs.Document.Saved
import AccumulatorMachine.Proofs.Driven.Alike

/-! What a program means that has been read from a file. -/
namespace AccumulatorMachine.Document

theorem alike_normalize (text : String) :
    (Program.ofText (normalize text)).Alike (Program.ofText text) := by
  rw [Program.ofText, lines_normalize]
  exact Program.alike_resplit _

/-- The text of an opened file has the same refused lines as the file. Watched runs of the two on the
same inputs report the same statuses and events, and come to the same memory and the same end, at
the same program counter unless they have stalled. The run of the file may need one turn more. -/
theorem opened_program_alike {d d' : Document} {path text opened : String}
    (htext : d.files.readText path = .ok text) (hopen : d.openFile path = (.ok opened, d')) :
    (Program.ofText opened).problems = (Program.ofText text).problems ∧
      ∀ inputs,
        (∀ n, ∃ m, n ≤ m ∧ m ≤ n + 1 ∧
          (Driven.ofText opened inputs).Agree (Driven.ofText text inputs) n m) ∧
        ∀ m, ∃ n, n ≤ m ∧ m ≤ n + 1 ∧
          (Driven.ofText opened inputs).Agree (Driven.ofText text inputs) n m := by
  obtain ⟨t, hopens, rfl, rfl⟩ := opens_of_openFile hopen
  obtain rfl : t = text := Except.ok.inj (hopens.readText.symm.trans htext)
  have halike := alike_normalize t
  exact ⟨halike.problems, Driven.agree_of_alike halike⟩

/-- A run that is stopped at the end of the text is stopped after the empty line of the file. -/
theorem opened_program_alike_blank :
    (ofFile "SET 1\r\n\n").files.readText "a.ram" = .ok "SET 1\r\n\n" ∧
      (∃ d, (ofFile "SET 1\r\n\n").openFile "a.ram" = (.ok "SET 1\n", d)) ∧
      ∃ m, 3 ≤ m ∧ (Driven.ofText "SET 1\n" []).Agree (Driven.ofText "SET 1\r\n\n" []) 3 m := by
  have hopens := opens_ofFile "SET 1\r\n\n"
  have hopened : normalize "SET 1\r\n\n" = "SET 1\n" := by decide +kernel
  have hopen := hopens.openFile
  rw [hopened] at hopen
  obtain ⟨-, hruns⟩ := opened_program_alike hopens.readText hopen
  obtain ⟨m, hle, -, hagree⟩ := (hruns []).1 3
  exact ⟨hopens.readText, ⟨_, hopen⟩, m, hle, hagree⟩

end AccumulatorMachine.Document
