import AccumulatorMachine.Proofs.Machine.Registers
import AccumulatorMachine.Proofs.Stepper
import Mathlib.Algebra.Order.Ring.Int

/-! The bounds that the registers of a stepper stay in, and what it means that an input has been asked
for. -/
namespace AccumulatorMachine

namespace Machine

/-- Nothing shows that the machines differ in but the mailbox and the mark of a stop. -/
structure SameRegisters (m m' : Machine) : Prop where
  pc : m'.pc = m.pc
  memory : m'.memory = m.memory
  awaiting : m'.awaiting = m.awaiting

/-- The bounds of the registers of a machine that executes this program. The line of an input that has
been asked for is the one the program counter is at. -/
structure Bounded (p : Program) (m : Machine) : Prop where
  size_le : ∀ size, m.size? = some size → size ≤ Memory.maxSize
  le_pc : -2 ^ 31 - 1 ≤ m.pc
  pc_le : m.pc ≤ max (p.length : Int) (2 ^ 31 - 2)
  asked : m.awaiting = true →
    ∃ line n, p.lineAt? m.pc = some line ∧ Performs line .input n ∧ m.HasCell n

theorem bounded_new (p : Program) : Bounded p {} where
  size_le := nofun
  le_pc := by decide
  pc_le := by
    show (0 : Int) ≤ _
    omega
  asked := nofun

theorem Bounded.congr {p : Program} {m m' : Machine} (h : m.Bounded p) (hsame : m.SameRegisters m') :
    m'.Bounded p := by
  obtain ⟨pc, memory, _, _, awaiting⟩ := m
  obtain ⟨pc', memory', _, _, awaiting'⟩ := m'
  obtain ⟨rfl, rfl, rfl⟩ := hsame
  exact ⟨h.size_le, h.le_pc, h.pc_le, h.asked⟩

/-- The line at the program counter has the number after it. -/
theorem advance_bounds {p : Program} {m : Machine} {line : String}
    (hline : p.lineAt? m.pc = some line) : 0 ≤ m.pc ∧ m.pc + 1 ≤ p.length := by
  obtain ⟨i, hpc, hi⟩ := Program.lineAt?_eq_some_iff.mp hline
  have hlt : i < p.length := (List.getElem?_eq_some_iff.mp hi).1
  omega

theorem Silently.pc_cases {m m' : Machine} {op : Opcode} {n : Int32} (h : m.Silently n op m') :
    m'.pc = m.pc + 1 ∨ m'.pc = n.toInt - 1 := by
  cases h with
  | jump => exact .inr rfl
  | hop | set | accumulate | store | pass => exact .inl rfl

theorem Bounded.not_awaiting {p : Program} {m : Machine} {line : String} {op : Opcode} {n : Int32}
    (h : m.Bounded p) (hline : p.lineAt? m.pc = some line) (hperforms : Performs line op n)
    (hop : op ≠ .input) : m.awaiting = false := by
  rw [Bool.eq_false_iff]
  intro hawaiting
  obtain ⟨line', n', hline', hinput, -⟩ := h.asked hawaiting
  obtain rfl : line = line' := Option.some.inj (hline.symm.trans hline')
  exact hop (hperforms.unique hinput).1

theorem Bounded.pc_succ {p : Program} {m : Machine} {line : String} (h : m.Bounded p)
    (hline : p.lineAt? m.pc = some line) :
    -2 ^ 31 - 1 ≤ m.pc + 1 ∧ m.pc + 1 ≤ max (p.length : Int) (2 ^ 31 - 2) := by
  have hadvance := advance_bounds hline
  have hlow := h.le_pc
  omega

/-- Executing the line at the program counter keeps the bounds. -/
theorem Bounded.runs {p : Program} {m m' : Machine} {line : String} {status : Status}
    (h : m.Bounded p) (hline : p.lineAt? m.pc = some line) (hruns : m.Runs line status m') :
    m'.Bounded p := by
  obtain ⟨hlow, hhigh⟩ := h.pc_succ hline
  have hsize : ∀ size, m'.size? = some size → size ≤ Memory.maxSize := by
    intro size hs
    obtain ⟨-, size', -, -, hle, -, hsize⟩ | ⟨-, hsize⟩ := hruns.size?_cases
    · obtain rfl : size = size' := Option.some.inj (hs.symm.trans hsize)
      exact hle
    · exact h.size_le size (hsize ▸ hs)
  cases hruns with
  | @silent _ n _ hperforms hsilent =>
    have hleast : -2 ^ 31 ≤ n.toInt := n.le_toInt
    have hmost : n.toInt < 2 ^ 31 := n.toInt_lt
    refine ⟨hsize, ?_, ?_, fun hawaiting => ?_⟩
    · obtain hpc | hpc := hsilent.pc_cases <;> omega
    · obtain hpc | hpc := hsilent.pc_cases <;> omega
    · rw [hsilent.keeps.2.1, h.not_awaiting hline hperforms hsilent.ne_input] at hawaiting
      cases hawaiting
  | printed hperforms mailbox =>
    refine ⟨hsize, hlow, hhigh, fun hawaiting => ?_⟩
    have hnot := h.not_awaiting hline hperforms (by decide)
    cases hnot.symm.trans hawaiting
  | asked hperforms hcell =>
    exact ⟨hsize, h.le_pc, h.pc_le, fun _ => ⟨line, _, hline, hperforms, hcell⟩⟩
  | stored => exact ⟨hsize, hlow, hhigh, nofun⟩
  | ended => exact h.congr ⟨rfl, rfl, rfl⟩

end Machine

namespace Stepper

/-- The next step executes a set instruction of this size, and it succeeds. -/
def Sets (s : Stepper) (size : Nat) : Prop :=
  ∃ line n, s.Executes line ∧ Machine.Performs line .set n ∧ n.toInt = size ∧ s.step.1 = .ok

/-- The size that the steps have set last. -/
inductive LastSet : List Stepper → Option Nat → Prop
  | never {log : List Stepper} (h : ∀ u ∈ log, ∀ size, ¬ u.Sets size) : LastSet log none
  | last {before after : List Stepper} {u : Stepper} {size : Nat} (hu : u.Sets size)
      (h : ∀ v ∈ after, ∀ size, ¬ v.Sets size) : LastSet (before ++ u :: after) (some size)

theorem LastSet.concat {log : List Stepper} {s : Stepper} {size? : Option Nat}
    (h : LastSet log size?) (hs : ∀ size, ¬ s.Sets size) : LastSet (log ++ [s]) size? := by
  cases h with
  | never hlog =>
    refine .never fun u hu => ?_
    rw [List.mem_append, List.mem_singleton] at hu
    obtain hu | rfl := hu
    · exact hlog u hu
    · exact hs
  | last hu hafter =>
    rw [List.append_assoc, List.cons_append]
    refine .last hu fun v hv => ?_
    rw [List.mem_append, List.mem_singleton] at hv
    obtain hv | rfl := hv
    · exact hafter v hv
    · exact hs

/-! ### Steps -/

theorem Idles.not_executes {s : Stepper} {r : Status × Stepper} (h : s.Idles r) (line : String) :
    ¬ s.Executes line := by
  intro hline
  cases h with
  | ended hended => cases hline.running.symm.trans hended
  | stopped _ hmark => cases hline.unmarked.symm.trans hmark
  | waits hwaits =>
    have hanswered := hline.answered hwaits.awaiting
    rw [hwaits.empty] at hanswered
    cases hanswered
  | outside hnone => cases hnone.symm.trans hline.line

theorem Idles.sameRegisters {s : Stepper} {r : Status × Stepper} (h : s.Idles r) :
    s.machine.SameRegisters r.2.machine := by
  cases h <;> exact ⟨rfl, rfl, rfl⟩

theorem Settles.sameRegisters {s : Stepper} {status : Status} {r : Status × Stepper}
    (h : s.Settles status r) : s.machine.SameRegisters r.2.machine :=
  ⟨h.pc, h.memory, h.awaiting⟩

theorem idles_or_runs (s : Stepper) :
    s.Idles s.step ∨ ∃ line status m, s.Executes line ∧ s.machine.Runs line status m ∧
      { s with machine := m }.Settles status s.step := by
  obtain hidles | ⟨line, hline⟩ := s.idles_or_executes
  · exact .inl hidles
  · obtain ⟨status, m, hrun, hsettle⟩ := hline.run?
    exact .inr ⟨line, status, m, hline, Machine.runs_of_run? hrun, settles_of_settle hsettle⟩

theorem finished_of_step {s : Stepper} (h : s.finished = none) :
    s.step.2.finished = if s.step.1.continues then none else some s.step.1 := by
  obtain hidles | ⟨_, status, _, -, -, hsettles⟩ := s.idles_or_runs
  · generalize s.step = r at hidles
    cases hidles with
    | ended hended => cases h.symm.trans hended
    | stopped => rfl
    | waits | outside => exact h
  · rw [hsettles.finished, hsettles.answer, h]

/-! ### The size of the memory -/

theorem size_of_runs {s : Stepper} {line : String} {status : Status} {m : Machine}
    (hline : s.Executes line) (h : s.machine.Runs line status m) (hstatus : s.step.1 = status) :
    (∃ size, s.Sets size ∧ m.size? = some size) ∨
      (∀ size, ¬ s.Sets size) ∧ m.size? = s.machine.size? := by
  obtain ⟨n, size, hset, hn, -, hok, hsize⟩ | ⟨hnot, hsize⟩ := h.size?_cases
  · exact .inl ⟨size, ⟨line, n, hline, hset, hn, hstatus.trans hok⟩, hsize⟩
  · refine .inr ⟨?_, hsize⟩
    rintro size ⟨line', n, hline', hset, -, hok⟩
    obtain rfl : line = line' := Option.some.inj (hline.line.symm.trans hline'.line)
    exact hnot (hstatus.symm.trans hok) n hset

theorem size_of_step (s : Stepper) :
    (∃ size, s.Sets size ∧ s.step.2.machine.size? = some size) ∨
      (∀ size, ¬ s.Sets size) ∧ s.step.2.machine.size? = s.machine.size? := by
  obtain hidles | ⟨line, status, m, hline, hruns, hsettles⟩ := s.idles_or_runs
  · refine .inr ⟨?_, by rw [Machine.size?, hidles.sameRegisters.memory, Machine.size?]⟩
    rintro size ⟨line, -, hline, -⟩
    exact hidles.not_executes line hline
  · rw [Machine.size?, hsettles.memory]
    exact size_of_runs hline hruns hsettles.answer

theorem lastSet_of_uses (text : String) (uses : List Use) :
    LastSet ((ofText text).stepsOf uses) ((ofText text).after uses).machine.size? := by
  have hkept : Kept uses fun log s => LastSet log s.machine.size? := by
    constructor
    · intro log s hs
      obtain ⟨size, hsets, hsize⟩ | ⟨hnot, hsize⟩ := s.size_of_step
      · rw [hsize]
        exact .last hsets fun _ hv => absurd hv List.not_mem_nil
      · rw [hsize]
        exact hs.concat hnot
    · exact fun _ _ hs => hs
    · exact fun _ _ _ _ hs => hs
    · exact fun _ _ _ hs => hs
  exact hkept.after (.never fun _ hu => absurd hu List.not_mem_nil)

theorem program_of_step (s : Stepper) : s.step.2.program = s.program := by
  obtain hidles | ⟨_, _, _, -, -, hsettles⟩ := s.idles_or_runs
  · generalize s.step = r at hidles
    cases hidles <;> rfl
  · exact hsettles.program

/-! ### Bounds -/

theorem bounded_of_step {s : Stepper} (h : s.machine.Bounded s.program) :
    s.step.2.machine.Bounded s.step.2.program := by
  rw [program_of_step]
  obtain hidles | ⟨line, status, m, hline, hruns, hsettles⟩ := s.idles_or_runs
  · exact h.congr hidles.sameRegisters
  · exact (h.runs hline.line hruns).congr hsettles.sameRegisters

theorem bounded_of_uses (text : String) (uses : List Use) :
    ((ofText text).after uses).program = Program.ofText text ∧
      ((ofText text).after uses).machine.Bounded (Program.ofText text) := by
  have hkept : Kept uses fun _ s =>
      s.program = Program.ofText text ∧ s.machine.Bounded (Program.ofText text) := by
    constructor
    · rintro _ s ⟨hprogram, hs⟩
      rw [← hprogram] at hs ⊢
      exact ⟨s.program_of_step, s.program_of_step ▸ bounded_of_step hs⟩
    · exact fun _ _ hs => hs
    · exact fun _ _ _ _ hs => ⟨hs.1, hs.2.congr ⟨rfl, rfl, rfl⟩⟩
    · exact fun _ _ _ hs => ⟨hs.1, hs.2.congr ⟨rfl, rfl, rfl⟩⟩
  exact hkept.after ⟨rfl, Machine.bounded_new (Program.ofText text)⟩

theorem row_of_uses (text : String) (uses : List Use) {row : List Int32}
    (hrow : ((ofText text).after uses).machine.snapshot.memory = some row) :
    row.length ≤ Memory.maxSize + 1 ∧
      ∃ size, row.length = size + 1 ∧ LastSet ((ofText text).stepsOf uses) (some size) := by
  obtain ⟨memory, hmemory, rfl⟩ := Option.map_eq_some_iff.mp hrow
  have hsize : ((ofText text).after uses).machine.size? = some memory.cells.length := by
    rw [Machine.size?, hmemory, Option.map_some]
  have hlast := lastSet_of_uses text uses
  rw [hsize] at hlast
  exact ⟨Nat.succ_le_succ ((bounded_of_uses text uses).2.size_le _ hsize), _, rfl, hlast⟩

/-- However a stepper is used, its memory has the size that was set last, 100 at most, and its program
counter stays between one below the least and one below the greatest number of a line that a jump
can name, or within the program. No instruction leaves the memory. While an input is awaited, the
program counter is at the instruction that asks for it, and the cell for it exists. -/
theorem registers_bounded (text : String) (uses : List Use) :
    let p := Program.ofText text
    let log := (ofText text).stepsOf uses
    let m := ((ofText text).after uses).machine
    (m.snapshot.memory = none → LastSet log none) ∧
    (∀ row, m.snapshot.memory = some row →
      1 ≤ row.length ∧ row.length ≤ 101 ∧ ∃ size, row.length = size + 1 ∧ LastSet log (some size)) ∧
    (-2 ^ 31 - 1 ≤ m.pc ∧ m.pc ≤ max (p.length : Int) (2 ^ 31 - 2)) ∧
    (p.length < 2 ^ 63 → -2 ^ 63 ≤ m.pc ∧ m.pc < 2 ^ 63 ∧
      ∀ line, p.lineAt? m.pc = some line → m.pc + 1 < 2 ^ 63) ∧
    (∀ op n, m.executeRow? op n = some (m.execute? op n)) ∧
    (m.awaiting = true → 0 ≤ m.pc ∧ m.pc < p.length ∧
      ∃ line n memory, p.lineAt? m.pc = some line ∧ Machine.Performs line .input n ∧
        m.memory = some memory ∧ 1 ≤ n.toInt ∧ n.toInt ≤ memory.cells.length) := by
  intro p log m
  have hbounded : m.Bounded p := (bounded_of_uses text uses).2
  have hlow := hbounded.le_pc
  have hhigh := hbounded.pc_le
  refine ⟨fun hnone => ?_, fun row hrow => ?_, ⟨hlow, hhigh⟩, fun hlength => ?_, m.executeRow?_eq,
    fun hawaiting => ?_⟩
  · have hsize : m.size? = none := Option.map_eq_none_iff.mpr (Option.map_eq_none_iff.mp hnone)
    exact hsize ▸ lastSet_of_uses text uses
  · obtain ⟨hmax, size, hlength, hlast⟩ := row_of_uses text uses hrow
    exact ⟨by omega, hmax, size, hlength, hlast⟩
  · refine ⟨by omega, by omega, fun line hline => ?_⟩
    have hadvance := Machine.advance_bounds hline
    omega
  · obtain ⟨line, n, hline, hinput, memory, hmemory, hcell⟩ := hbounded.asked hawaiting
    have hadvance := Machine.advance_bounds hline
    simp only [Memory.hasCell, Bool.and_eq_true, decide_eq_true_eq] at hcell
    exact ⟨hadvance.1, by omega, line, n, memory, hline, hinput, hmemory, hcell⟩

theorem asked_eq : (ofText "SET 2\nINP 2").after [.step, .step] =
    { program := ["SET 2", "INP 2"],
      machine := { pc := 1, memory := some (.zeros 2), awaiting := true } } := by
  have hset : (ofText "SET 2\nINP 2").after [.step] =
      { program := ["SET 2", "INP 2"], machine := { pc := 1, memory := some (.zeros 2) } } := rfl
  show ((ofText "SET 2\nINP 2").after [.step]).step.2 = _
  rw [hset]
  rfl

theorem registers_bounded_asked :
    ((ofText "SET 2\nINP 2").after [.step, .step]).machine.awaiting = true ∧
      LastSet ((ofText "SET 2\nINP 2").stepsOf [.step, .step]) (some 2) ∧
      ∃ line n, (Program.ofText "SET 2\nINP 2").lineAt? 1 = some line ∧
        Machine.Performs line .input n := by
  have hbounded := registers_bounded "SET 2\nINP 2" [.step, .step]
  simp only [asked_eq] at hbounded ⊢
  obtain ⟨-, hrow, -, -, -, hasked⟩ := hbounded
  obtain ⟨-, -, size, hsize, hlast⟩ := hrow [0, 0, 0] rfl
  obtain ⟨-, -, line, n, -, hline, hinput, -⟩ := hasked trivial
  obtain rfl : 2 = size := Nat.succ.inj hsize
  exact ⟨trivial, hlast, line, n, hline, hinput⟩

end Stepper

end AccumulatorMachine
