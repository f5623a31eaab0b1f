import AccumulatorMachine.Proofs.Session.Explained
import AccumulatorMachine.Proofs.Stepper

/-! The refused lines of a program are those that every machine fails to make sense of, and no run fails
so on any other line. -/
namespace AccumulatorMachine

/-- The failures that lie in the text of a line. -/
inductive Failure.OfText : Failure → Prop
  | unreadable : OfText .unreadableLine
  | unknown : OfText .unknownCommand

namespace Problem

/-- How a machine fails that is given the line. -/
def failure : Problem → Failure
  | .unreadable _ => .unreadableLine
  | .unknownOpcode _ | .reservedOpcode => .unknownCommand

theorem failure_ofText (problem : Problem) : problem.failure.OfText := by
  cases problem with
  | unreadable => exact .unreadable
  | unknownOpcode | reservedOpcode => exact .unknown

theorem failure_eq_unreadableLine_iff {problem : Problem} :
    problem.failure = .unreadableLine ↔ ∃ cause, problem = .unreadable cause := by
  cases problem <;> simp [failure]

theorem failure_eq_unknownCommand_iff {problem : Problem} :
    problem.failure = .unknownCommand ↔
      (∃ opcode, problem = .unknownOpcode opcode) ∨ problem = .reservedOpcode := by
  cases problem <;> simp [failure]

theorem ofInstruction?_eq_none_iff (i : Instruction) :
    ofInstruction? i = none ↔ ∃ op, i.opcode? = some op := by
  unfold ofInstruction?
  split <;> simp_all

theorem failure_of_ofInstruction? {i : Instruction} {problem : Problem}
    (h : ofInstruction? i = some problem) :
    i.opcode? = none ∧ problem.failure = .unknownCommand := by
  unfold ofInstruction? at h
  split at h
  · cases h
  · next hop _ =>
    cases h
    exact ⟨hop, rfl⟩
  · next hop _ =>
    cases h
    exact ⟨hop, rfl⟩

/-- A line without a problem is an instruction. -/
theorem performs_of_ofLine?_eq_none {line : String} (h : ofLine? line = none) :
    ∃ op n, Machine.Performs line op n := by
  unfold ofLine? at h
  split at h
  · cases h
  · next i hi =>
    obtain ⟨op, hop⟩ := (ofInstruction?_eq_none_iff i).mp h
    exact ⟨op, i.operand, i, hi, hop, rfl⟩

end Problem

/-! ### Lines -/

namespace Machine

/-- The execution of a line fails in this way, at once or after others have changed the machine while
an input was waited for. -/
inductive Fails (m : Machine) (line : String) (cause : Failure) : Prop
  | visit {n : Machine} (h : m.visitLine line = .done (.failed cause) n) : Fails m line cause
  | take {address : Int32} {m' n : Machine} (h : m.visitLine line = .taking address)
      (htake : m'.takeInput? address = some (.failed cause, n)) : Fails m line cause

theorem visitLine_of_problem {line : String} {problem : Problem}
    (h : Problem.ofLine? line = some problem) (m : Machine) :
    m.visitLine line = .done (.failed problem.failure) m := by
  unfold Problem.ofLine? at h
  split at h
  · next hi =>
    cases h
    simp only [visitLine, hi]
    rfl
  · next i hi =>
    obtain ⟨hop, hfailure⟩ := Problem.failure_of_ofInstruction? h
    simp only [visitLine, hi, hop, hfailure]

theorem Refuses.not_ofText {m : Machine} {op : Opcode} {n : Int32} {cause : Failure}
    (h : m.Refuses op n cause) : ¬ cause.OfText := by
  rintro ⟨⟩ <;> cases h

/-- What is wrong with an input does not lie in the text of the line that takes it. -/
theorem not_ofText_of_takeInput? {m n : Machine} {address : Int32} {cause : Failure}
    (h : m.takeInput? address = some (.failed cause, n)) : ¬ cause.OfText := by
  obtain ⟨input, mailbox, -, hstores⟩ := stores_of_takeInput? h
  cases hstores with
  | refused | missing => rintro ⟨⟩

/-- A machine that fails for the text of a line is left as it was, and the line has a problem. -/
theorem problem_of_visitLine {m n : Machine} {line : String} {cause : Failure} (hc : cause.OfText)
    (h : m.visitLine line = .done (.failed cause) n) :
    n = m ∧ ∃ problem, Problem.ofLine? line = some problem ∧ problem.failure = cause := by
  cases hp : Problem.ofLine? line with
  | some problem =>
    cases (visitLine_of_problem hp m).symm.trans h
    exact ⟨rfl, problem, rfl, rfl⟩
  | none =>
    obtain ⟨op, operand, hline⟩ := Problem.performs_of_ofLine?_eq_none hp
    rw [visitLine_of_performs hline] at h
    have hdoes := m.does_visit op operand
    rw [h] at hdoes
    cases hdoes with
    | fail hrefuses => exact absurd hc hrefuses.not_ofText

theorem Fails.problem {m : Machine} {line : String} {cause : Failure} (h : m.Fails line cause)
    (hc : cause.OfText) : ∃ problem, Problem.ofLine? line = some problem ∧ problem.failure = cause := by
  cases h with
  | visit hvisit => exact (problem_of_visitLine hc hvisit).2
  | take _ htake => exact absurd hc (not_ofText_of_takeInput? htake)

theorem problem_of_run? {m n : Machine} {line : String} {cause : Failure} (hc : cause.OfText)
    (h : m.run? line = some (.failed cause, n)) :
    n = m ∧ ∃ problem, Problem.ofLine? line = some problem ∧ problem.failure = cause := by
  unfold run? at h
  cases hvisit : m.visitLine line with
  | done status n' =>
    rw [hvisit] at h
    cases h
    exact problem_of_visitLine hc hvisit
  | taking address =>
    rw [hvisit] at h
    exact absurd hc (not_ofText_of_takeInput? h)

theorem run?_of_problem {line : String} {problem : Problem}
    (h : Problem.ofLine? line = some problem) (m : Machine) :
    m.run? line = some (.failed problem.failure, m) := by
  rw [run?, visitLine_of_problem h]
  rfl

/-- A line has a problem of this kind exactly when every machine fails on it in this way. -/
theorem exists_problem_iff {line : String} {cause : Failure} (hc : cause.OfText) :
    (∃ problem, Problem.ofLine? line = some problem ∧ problem.failure = cause) ↔
      ∀ m : Machine, ∃ n, m.run? line = some (.failed cause, n) := by
  constructor
  · rintro ⟨problem, hproblem, rfl⟩ m
    exact ⟨m, run?_of_problem hproblem m⟩
  · intro hall
    obtain ⟨n, hn⟩ := hall {}
    exact (problem_of_run? hc hn).2

/-- A line has no problem exactly when no machine ever fails for its text. -/
theorem ofLine?_eq_none_iff {line : String} :
    Problem.ofLine? line = none ↔ ∀ (m : Machine) (cause : Failure), cause.OfText →
      ¬ m.Fails line cause := by
  constructor
  · intro hnone m cause hc hfails
    obtain ⟨problem, hproblem, -⟩ := hfails.problem hc
    cases hnone.symm.trans hproblem
  · intro hall
    rw [Option.eq_none_iff_forall_ne_some]
    intro problem hproblem
    exact hall {} problem.failure problem.failure_ofText (.visit (visitLine_of_problem hproblem {}))

end Machine

/-! ### Programs -/

namespace Program

/-- The line with this number is listed with a problem of this kind. -/
def Lists (p : Program) (number : Nat) (cause : Failure) : Prop :=
  ∃ problem, (number, problem) ∈ p.problems ∧ problem.failure = cause

theorem mem_problems_iff {p : Program} {number : Nat} {problem : Problem} :
    (number, problem) ∈ p.problems ↔
      ∃ i line, number = i + 1 ∧ p[i]? = some line ∧ Problem.ofLine? line = some problem := by
  simp only [problems, List.mem_filterMap, Prod.exists, List.mk_mem_zipIdx_iff_le_and_getElem?_sub,
    Option.map_eq_some_iff, Prod.mk.injEq]
  constructor
  · rintro ⟨line, k, ⟨hle, hline⟩, problem', hproblem, rfl, rfl⟩
    exact ⟨k - 1, line, by omega, hline, hproblem⟩
  · rintro ⟨i, line, rfl, hline, hproblem⟩
    exact ⟨line, i + 1, ⟨by omega, hline⟩, problem, hproblem, rfl, rfl⟩

/-- What is listed for a line that is there is what is wrong with it. -/
theorem mem_problems_of_line {p : Program} {i : Nat} {line : String} (h : p[i]? = some line)
    (problem : Problem) :
    (i + 1, problem) ∈ p.problems ↔ Problem.ofLine? line = some problem := by
  rw [mem_problems_iff]
  constructor
  · rintro ⟨j, line', hj, hline, hproblem⟩
    obtain rfl : i = j := Nat.succ.inj hj
    obtain rfl : line = line' := Option.some.inj (h.symm.trans hline)
    exact hproblem
  · exact fun hproblem => ⟨i, line, rfl, h, hproblem⟩

/-- The numbers of the listed lines go up. -/
theorem pairwise_problems (p : Program) : p.problems.Pairwise fun a b => a.1 < b.1 := by
  have hnumbers : (p.zipIdx 1).Pairwise fun a b => a.2 < b.2 := by
    rw [← List.pairwise_map (f := Prod.snd) (R := (· < ·)), List.zipIdx_map_snd]
    exact List.pairwise_lt_range' 1
  refine hnumbers.filterMap _ ?_
  rintro ⟨line, i⟩ ⟨line', j⟩ hlt b hb b' hb'
  simp only [Option.map_eq_some_iff] at hb hb'
  obtain ⟨-, -, rfl⟩ := hb
  obtain ⟨-, -, rfl⟩ := hb'
  exact hlt

theorem lists_iff {p : Program} {i : Nat} {line : String} {cause : Failure} (h : p[i]? = some line) :
    p.Lists (i + 1) cause ↔ ∃ problem, Problem.ofLine? line = some problem ∧ problem.failure = cause := by
  simp only [Lists, mem_problems_of_line h]

/-! ### Runs -/

/-- An ending with this status, where the program counter is by then, is one that the check has
foreseen, if it is due to the text of a line. -/
structure Foretells (p : Program) (status : Status) (pc : Int) : Prop where
  listed : ∀ cause : Failure, cause.OfText → status = .failed cause →
    ∃ i : Nat, pc = i ∧ p.Lists (i + 1) cause
  clean : p.problems = [] → status ≠ .failed .unreadableLine ∧ status ≠ .failed .unknownCommand

theorem Lists.ne_nil {p : Program} {number : Nat} {cause : Failure} (h : p.Lists number cause) :
    p.problems ≠ [] := by
  obtain ⟨problem, hmem, -⟩ := h
  exact List.ne_nil_of_mem hmem

theorem foretells_of_listed {p : Program} {status : Status} {pc : Int}
    (h : ∀ cause : Failure, cause.OfText → status = .failed cause →
      ∃ i : Nat, pc = i ∧ p.Lists (i + 1) cause) : p.Foretells status pc := by
  refine ⟨h, fun hnil => ⟨fun hstatus => ?_, fun hstatus => ?_⟩⟩
  · obtain ⟨i, -, hlists⟩ := h _ .unreadable hstatus
    exact hlists.ne_nil hnil
  · obtain ⟨i, -, hlists⟩ := h _ .unknown hstatus
    exact hlists.ne_nil hnil

theorem foretells_of_line {p : Program} {pc : Int} {line : String} {cause : Failure}
    (hline : p.lineAt? pc = some line)
    (h : cause.OfText →
      ∃ problem, Problem.ofLine? line = some problem ∧ problem.failure = cause) :
    p.Foretells (.failed cause) pc := by
  refine foretells_of_listed fun cause' hc hstatus => ?_
  obtain rfl : cause = cause' := Status.failed.inj hstatus
  obtain ⟨i, hpc, hi⟩ := lineAt?_eq_some_iff.mp hline
  exact ⟨i, hpc, (lists_iff hi).mpr (h hc)⟩

theorem foretells_of_not_failed {p : Program} {status : Status} {pc : Int}
    (h : ∀ cause, status ≠ .failed cause) : p.Foretells status pc :=
  foretells_of_listed fun cause _ hstatus => absurd hstatus (h cause)

end Program

theorem Failure.ExplainedBy.problem {line : String} {s : Snapshot} {cause : Failure}
    (h : cause.ExplainedBy line s) (hc : cause.OfText) :
    ∃ problem, Problem.ofLine? line = some problem ∧ problem.failure = cause := by
  cases h with
  | @unreadable e h => exact ⟨.unreadable e, by simp [Problem.ofLine?, h], rfl⟩
  | @unknown i h hop =>
    cases hproblem : Problem.ofInstruction? i with
    | none =>
      obtain ⟨op, hop'⟩ := (Problem.ofInstruction?_eq_none_iff i).mp hproblem
      cases hop.symm.trans hop'
    | some problem =>
      refine ⟨problem, by simp [Problem.ofLine?, h, hproblem], ?_⟩
      exact (Problem.failure_of_ofInstruction? hproblem).2
  | size | zero | noMemory | noCell | input => nomatch hc

theorem Report.Explained.foretells {p : Program} {r : Report} (h : r.Explained p) :
    p.Foretells r.status r.snapshot.pc := by
  obtain ⟨status, snapshot⟩ := r
  unfold Report.Explained at h
  cases h with
  | stopped | succeeded => exact Program.foretells_of_not_failed nofun
  | failed hline h => exact Program.foretells_of_line hline h.problem

namespace Session

variable {callers : Callers} {before : Shared} {program : Program} {elapsed : Nat}
  {course : List Moment}

theorem Unfolds.foretells {r : Run} {report : Report}
    (h : Unfolds callers before program elapsed course (.running r))
    (hr : r.report? = some report) : program.Foretells report.status report.snapshot.pc := by
  have hruns := h.invariant (P := Scene.Explained program) (fun _ _ => trivial)
    (fun _ _ hp hm => hp.move hm) (fun _ _ _ _ _ hp hc => hp.call hc)
  obtain ⟨-, -, -, hexplained⟩ := hruns
  have hrunner := Run.runner_of_report? hr
  unfold Scene.Explained Run.scene at hexplained
  rw [Run.stage_of_runner hrunner nofun] at hexplained
  exact Report.Explained.foretells hexplained

end Session

namespace Stepper

/-- A stepper that has come to its end has come to one that was foreseen. -/
structure Foretold (p : Program) (s : Stepper) : Prop where
  program : s.program = p
  ending : ∀ status, s.finished = some status → p.Foretells status s.machine.pc

theorem Foretold.execute {p : Program} {s : Stepper} {line : String} (h : s.Foretold p)
    (hline : s.Executes line) : s.step.2.Foretold p := by
  obtain ⟨status, m, hrun, hsettle⟩ := hline.run?
  have hsettles := settles_of_settle hsettle
  refine ⟨hsettles.program.trans h.program, fun final hfinal => ?_⟩
  rw [hsettles.finished] at hfinal
  rw [hsettles.pc]
  cases status with
  | ok | output | input =>
    cases hline.running.symm.trans hfinal
  | succeeded | stopped =>
    cases hfinal
    exact Program.foretells_of_not_failed nofun
  | failed cause =>
    cases hfinal
    refine Program.foretells_of_listed fun cause' hc hcause => ?_
    obtain rfl : cause = cause' := Status.failed.inj hcause
    obtain ⟨rfl, hproblem⟩ := Machine.problem_of_run? hc hrun
    refine (Program.foretells_of_line (p := p) ?_ fun _ => hproblem).listed cause hc rfl
    rw [← h.program]
    exact hline.line

theorem Foretold.step {p : Program} {s : Stepper} (h : s.Foretold p) : s.step.2.Foretold p := by
  obtain hidles | ⟨line, hline⟩ := s.idles_or_executes
  · generalize s.step = r at hidles
    cases hidles with
    | stopped =>
      refine ⟨h.program, fun final hfinal => ?_⟩
      cases hfinal
      exact Program.foretells_of_not_failed nofun
    | ended | waits | outside => exact h
  · exact h.execute hline

theorem foretold_of_uses (text : String) (uses : List Use) :
    ((ofText text).after uses).Foretold (Program.ofText text) := by
  have hstart : (ofText text).Foretold (Program.ofText text) := ⟨rfl, nofun⟩
  have hall : (∀ u ∈ (ofText text).stepsOf uses, u.Foretold (Program.ofText text)) ∧
      ((ofText text).after uses).Foretold (Program.ofText text) := by
    refine invariant (fun _ hs => hs.step) (fun _ hs => ?_) (fun _ _ _ hs => ?_)
      (fun _ _ hs => ?_) hstart
    all_goals exact ⟨hs.program, hs.ending⟩
  exact hall.2

end Stepper

namespace Program

/-- The check lists every line at most once and in order. A line is listed as unreadable exactly when
every machine fails to read it, as an unknown or a reserved instruction exactly when every machine
fails to know it, and not at all exactly when no machine ever does either. Every run of the
program, in a session or step by step, that ends for the text of a line ends at a line that is
listed so; there is none if nothing is listed. -/
theorem problems_foretell_failures (text : String) :
    let p := ofText text
    (p.problems.Pairwise fun a b => a.1 < b.1) ∧
    (∀ number problem, (number, problem) ∈ p.problems → ∃ i, number = i + 1 ∧ i < p.length) ∧
    (∀ i line, p[i]? = some line →
      ((∃ cause, (i + 1, .unreadable cause) ∈ p.problems) ↔
        ∀ m : Machine, ∃ n, m.run? line = some (.failed .unreadableLine, n)) ∧
      ((∃ opcode, (i + 1, .unknownOpcode opcode) ∈ p.problems) ∨
          (i + 1, .reservedOpcode) ∈ p.problems ↔
        ∀ m : Machine, ∃ n, m.run? line = some (.failed .unknownCommand, n)) ∧
      ((∀ problem, (i + 1, problem) ∉ p.problems) ↔
        ∀ m : Machine, ¬ m.Fails line .unreadableLine ∧ ¬ m.Fails line .unknownCommand)) ∧
    (∀ callers before elapsed course r report,
      Session.Unfolds callers before p elapsed course (.running r) → r.report? = some report →
        p.Foretells report.status report.snapshot.pc) ∧
    ∀ uses status, ((Stepper.ofText text).after uses).finished = some status →
      p.Foretells status ((Stepper.ofText text).after uses).machine.pc := by
  intro p
  refine ⟨p.pairwise_problems, fun number problem hmem => ?_, fun i line hline => ⟨?_, ?_, ?_⟩, ?_, ?_⟩
  · obtain ⟨i, line, hnumber, hline, -⟩ := mem_problems_iff.mp hmem
    exact ⟨i, hnumber, (List.getElem?_eq_some_iff.mp hline).1⟩
  · rw [← Machine.exists_problem_iff .unreadable]
    simp only [mem_problems_of_line hline, Problem.failure_eq_unreadableLine_iff]
    constructor
    · rintro ⟨cause, hproblem⟩
      exact ⟨_, hproblem, cause, rfl⟩
    · rintro ⟨_, hproblem, cause, rfl⟩
      exact ⟨cause, hproblem⟩
  · rw [← Machine.exists_problem_iff .unknown]
    simp only [mem_problems_of_line hline, Problem.failure_eq_unknownCommand_iff]
    constructor
    · rintro (⟨opcode, hproblem⟩ | hproblem)
      · exact ⟨_, hproblem, .inl ⟨opcode, rfl⟩⟩
      · exact ⟨_, hproblem, .inr rfl⟩
    · rintro ⟨_, hproblem, ⟨opcode, rfl⟩ | rfl⟩
      · exact .inl ⟨opcode, hproblem⟩
      · exact .inr hproblem
  · simp only [mem_problems_of_line hline, ← Option.eq_none_iff_forall_ne_some,
      Machine.ofLine?_eq_none_iff]
    constructor
    · exact fun hnone m => ⟨hnone m _ .unreadable, hnone m _ .unknown⟩
    · rintro hnone m cause ⟨⟩
      · exact (hnone m).1
      · exact (hnone m).2
  · exact fun _ _ _ _ _ _ h hr => h.foretells hr
  · exact fun uses status => (Stepper.foretold_of_uses text uses).ending status

/-- The run of a program whose second line names no operation. -/
def misspelt : Run :=
  Schedule.settle (Schedule.first? Run.threads) 64
    (Session.accept {} (ofText "SET 1\nFOO 1\nHOP") 0)

theorem problems_foretell_failures_misspelt :
    misspelt.report? = some ⟨.failed .unknownCommand, ⟨1, some [0, 0], false, false⟩⟩ ∧
      (ofText "SET 1\nFOO 1\nHOP").Foretells (.failed .unknownCommand) 1 ∧
      (ofText "SET 1\nFOO 1\nHOP").problems =
        [(2, .unknownOpcode "foo"), (3, .unreadable (.malformed 1))] := by
  obtain ⟨-, -, -, hruns, -⟩ := problems_foretell_failures "SET 1\nFOO 1\nHOP"
  have hreport : misspelt.report? =
      some ⟨.failed .unknownCommand, ⟨1, some [0, 0], false, false⟩⟩ := by decide +kernel
  have hbegins : ∃ course, Session.Unfolds (fun _ _ => True) {} (ofText "SET 1\nFOO 1\nHOP") 0 course
      (.running (Session.accept {} (ofText "SET 1\nFOO 1\nHOP") 0)) := Session.unfolds_accept rfl
  obtain ⟨_, hunfolds⟩ := hbegins
  obtain ⟨_, hends⟩ := hunfolds.settle 64
  exact ⟨hreport, hruns _ _ _ _ _ _ hends hreport, by decide +kernel⟩

end Program

end AccumulatorMachine
