import AccumulatorMachine.Program.Report
import AccumulatorMachine.Proofs.Json.Reader
import AccumulatorMachine.Proofs.Program.Foretold
import Mathlib.Data.List.Forall2

/-! The report of a program is JSON, and says which lines are refused and why, whatever characters stand
in them. -/
namespace AccumulatorMachine.Program

/-- A refused line as it is shown. -/
def shown (refused : Nat × Problem) : Nat × String := (refused.1, refused.2.message)

/-- The objects that say so of a line with this number. -/
inductive Reports : Nat × String → Json → Prop
  | mk {line : Nat} {literal : List Char} (message : String) (h : Text.Numeral literal line) :
      Reports (line, message) (.object [("line", .number literal), ("error", .string message)])

theorem Reports.unique {a b : Nat × String} {j : Json} (h : Reports a j) (h' : Reports b j) :
    a = b := by
  cases h with
  | @mk line literal message h =>
    cases h' with
    | mk _ h' =>
      have hline := Text.readInt?_eq_some_iff.mpr h
      rw [Text.readInt?_eq_some_iff.mpr h', Option.some_inj, Int.natCast_inj] at hline
      rw [hline]

theorem reports_problemJson (refused : Nat × Problem) : Reports (shown refused) (problemJson refused) :=
  .mk refused.2.message (Text.numeral_writeInt refused.1)

theorem denotes_problemJson (refused : Nat × Problem) :
    Json.Denotes .value (problemJson refused).write (problemJson refused) := by
  refine Json.denotes_object fun m hm => ?_
  obtain rfl | hm := List.mem_cons.mp hm
  · exact Json.denotes_nat refused.1
  · obtain rfl := List.mem_singleton.mp hm
    exact Json.denotes_writeString refused.2.message

theorem denotes_report (p : Program) : Json.Denotes .element p.report.toList p.reportJson := by
  have hitems : ∀ j ∈ p.problems.map problemJson, Json.Denotes .value j.write j := by
    intro j hj
    obtain ⟨refused, -, rfl⟩ := List.mem_map.mp hj
    exact denotes_problemJson refused
  rw [report, Json.render, String.toList_ofList]
  exact (Json.denotes_array hitems).bare

theorem forall₂_reports (p : Program) :
    List.Forall₂ Reports (p.problems.map shown) (p.problems.map problemJson) := by
  rw [List.forall₂_map_left_iff, List.forall₂_map_right_iff, List.forall₂_same]
  exact fun refused _ => reports_problemJson refused

/-- What is shown of the refused lines is all that a report depends on. -/
theorem report_congr {p q : Program} (h : p.problems.map shown = q.problems.map shown) :
    p.report = q.report := by
  have hproblem : problemJson =
      (fun s : Nat × String => .object [("line", Json.nat s.1), ("error", .string s.2)]) ∘ shown := rfl
  rw [report, report, reportJson, reportJson, hproblem, ← List.map_map, ← List.map_map, h]

/-- A report says what is shown. -/
theorem shown_of_report {p q : Program} (h : p.report = q.report) :
    p.problems.map shown = q.problems.map shown := by
  have hq := q.denotes_report
  rw [← h] at hq
  have hitems : p.problems.map problemJson = q.problems.map problemJson :=
    Json.array.inj (p.denotes_report.unique hq)
  have hreports := p.forall₂_reports
  rw [hitems] at hreports
  exact List.left_unique_forall₂' (fun _ _ _ ha hb => ha.unique hb) hreports q.forall₂_reports

/-- The report of a program is a text of JSON. It denotes an array, and only that, of which each object
has the number of a refused line and says why the line is refused, in the order of the lines. So two
programs have the same report exactly if the same is shown of their lines. -/
theorem report_lists_problems (text other : String) :
    let p := ofText text
    let q := ofText other
    (∀ number problem, (number, problem) ∈ p.problems ↔
      ∃ i line, number = i + 1 ∧ p[i]? = some line ∧ Problem.ofLine? line = some problem) ∧
    (∃ items, (∀ j, Json.Denotes .element p.report.toList j ↔ j = .array items) ∧
      Json.read? p.report = some (.array items) ∧
      List.Forall₂ Reports (p.problems.map shown) items) ∧
    (p.report = q.report ↔ p.problems.map shown = q.problems.map shown) := by
  intro p q
  refine ⟨fun number problem => mem_problems_iff, ⟨p.problems.map problemJson, fun j => ?_, ?_, ?_⟩, ?_⟩
  · constructor
    · exact fun h => h.unique p.denotes_report
    · rintro rfl
      exact p.denotes_report
  · exact p.denotes_report.read?
  · exact p.forall₂_reports
  · exact ⟨shown_of_report, report_congr⟩

example : (ofText "\"\\\x01 1").report =
    "[\x7b\"line\":1,\"error\":\"unknown instruction '\\\"\\\\\\u0001'\"\x7d]" := by decide +kernel

end AccumulatorMachine.Program
