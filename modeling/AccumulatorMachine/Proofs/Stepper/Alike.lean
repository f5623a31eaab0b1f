import AccumulatorMachine.Proofs.Program.Alike
import AccumulatorMachine.Proofs.Stepper.Reached

/-! Two steppers side by side, with programs of which the second may have a blank line more at its end.
Each step reports the same on both sides. -/
namespace AccumulatorMachine

theorem Machine.run?_congr {m : Machine} {line line' : String}
    (h : Instruction.ofLine line = Instruction.ofLine line') : m.run? line = m.run? line' := by
  rw [run?, visitLine, h, run?, visitLine]

theorem Machine.run?_of_blank {m : Machine} {line : String}
    (h : Instruction.ofLine line = .ok .blank) : m.run? line = some (.ok, m.advance) := by
  simp [run?, visitLine, h, visit, finish?]

namespace Stepper

def withProgram (s : Stepper) (program : Program) : Stepper := { s with program }

theorem settle_withProgram (s : Stepper) (p : Program) (status : Status) :
    (s.withProgram p).settle status = (s.settle status).map (Prod.map id (·.withProgram p)) := by
  cases status with
  | output =>
    simp only [settle, withProgram, Option.map_map]
    rfl
  | _ => rfl

theorem execute?_withProgram (s : Stepper) (p : Program) (line : String) :
    (s.withProgram p).execute? line = (s.execute? line).map (Prod.map id (·.withProgram p)) := by
  rw [execute?, execute?, Option.map_bind]
  exact Option.bind_congr fun r _ => settle_withProgram { s with machine := r.2 } p r.1

theorem execute?_congr {line line' : String} (h : Instruction.ofLine line = Instruction.ofLine line')
    (s : Stepper) : s.execute? line = s.execute? line' := by
  rw [execute?, Machine.run?_congr h, execute?]

/-! ### A step before and after the program is read -/

/-- The status that a step has before the program is read, and whether it ends the run. -/
def early? (s : Stepper) : Option (Status × Option Status) :=
  match s.finished with
  | some status => some (status, some status)
  | none =>
    if s.machine.interrupted then some (.stopped, some .stopped)
    else if s.machine.awaiting && !s.machine.hasPending then some (.input, none)
    else none

/-- What the line at the program counter makes of a step. -/
def read? (s : Stepper) : Option (Status × Stepper) :=
  match s.program.lineAt? s.machine.pc with
  | none => some (.ok, s)
  | some line => s.execute? line

theorem step?_eq (s : Stepper) : s.step? =
    match s.early? with
    | some (status, finished) => some (status, { s with finished })
    | none => s.read? := by
  obtain ⟨program, machine, printed, finished⟩ := s
  cases finished with
  | some status => rfl
  | none =>
    simp only [step?, early?]
    split
    · rfl
    · split <;> rfl

theorem early?_eq_none_iff {s : Stepper} :
    s.early? = none ↔ s.finished = none ∧ s.machine.interrupted = false ∧
      (s.machine.awaiting = true → s.machine.hasPending = true) := by
  cases hfinished : s.finished with
  | some status => simp [early?, hfinished]
  | none =>
    cases hmark : s.machine.interrupted with
    | true => simp [early?, hfinished, hmark]
    | false => simp [early?, hfinished, hmark]

theorem step_of_early {s : Stepper} {status : Status} {finished : Option Status}
    (h : s.early? = some (status, finished)) : s.step = (status, { s with finished }) := by
  have hstep := s.step?_eq
  rw [h, step?_eq_step] at hstep
  exact Option.some.inj hstep

theorem read?_of_early {s : Stepper} (h : s.early? = none) : s.read? = some s.step := by
  rw [← step?_eq_step, step?_eq, h]

theorem step_of_outside {s : Stepper} (h : s.early? = none)
    (hout : s.program.lineAt? s.machine.pc = none) : s.step = (.ok, s) := by
  have hread := read?_of_early h
  rw [read?, hout] at hread
  exact (Option.some.inj hread).symm

theorem execute?_of_early {s : Stepper} {line : String} (h : s.early? = none)
    (hline : s.program.lineAt? s.machine.pc = some line) : s.execute? line = some s.step := by
  have hread := read?_of_early h
  rw [read?, hline] at hread
  exact hread

/-! ### Two steppers -/

/-- The stepper with another program, and somewhere else in it. -/
def relocate (s : Stepper) (program : Program) (pc : Int) : Stepper :=
  { s with program, machine := { s.machine with pc } }

theorem early?_relocate (s : Stepper) (p : Program) (pc : Int) :
    (s.relocate p pc).early? = s.early? := rfl

/-- Both programs have been executed to the same place, or the second one step further, to the end of
the blank line that the first does not have. -/
inductive Beside (p p' : Program) : Nat → Stepper → Stepper → Prop
  | level {s : Stepper} (h : s.program = p) : Beside p p' 0 s (s.withProgram p')
  | ahead {s : Stepper} (h : s.program = p) (hout : p.lineAt? s.machine.pc = none)
      (hout' : p'.lineAt? (s.machine.pc + 1) = none) :
      Beside p p' 1 s (s.relocate p' (s.machine.pc + 1))

/-- A step leaves two steppers as far apart as they are, or only the second executes a line. -/
inductive Advances (p p' : Program) (lag : Nat) (s s' : Stepper) : Prop
  | both (houtside : s.early? = none → p.lineAt? s.machine.pc = none → p'.lineAt? s'.machine.pc = none)
      (h : Beside p p' lag s.step.2 s'.step.2)
  | second (hlag : lag = 0) (hearly : s.early? = none) (hout : p.lineAt? s.machine.pc = none)
      (h : Beside p p' 1 s s'.step.2)

namespace Beside

variable {p p' : Program} {lag : Nat} {s s' : Stepper}

theorem steps {status : Status} {u u' : Stepper} (hstep : s.step = (status, u))
    (hstep' : s'.step = (status, u')) (h : Beside p p' lag u u')
    (houtside : s.early? = none → p.lineAt? s.machine.pc = none → p'.lineAt? s'.machine.pc = none) :
    s'.step.1 = s.step.1 ∧ Advances p p' lag s s' := by
  refine ⟨by rw [hstep, hstep'], .both houtside ?_⟩
  rw [hstep, hstep']
  exact h

theorem step_level (hp : p.Alike p') (h : s.program = p) :
    (s.withProgram p').step.1 = s.step.1 ∧ Advances p p' 0 s (s.withProgram p') := by
  cases hearly : s.early? with
  | some r =>
    exact steps (step_of_early hearly) (step_of_early (s := s.withProgram p') hearly) (.level h)
      fun hnone => nomatch hearly.symm.trans hnone
  | none =>
    have hearly' : (s.withProgram p').early? = none := hearly
    cases hp.faces s.machine.pc with
    | @inside line line' hline hline' hsame =>
      have hexecute := execute?_withProgram s p' line'
      rw [execute?_of_early hearly' hline', ← execute?_congr hsame,
        execute?_of_early hearly (h ▸ hline)] at hexecute
      exact steps rfl (Option.some.inj hexecute) (.level (s.program_of_step.trans h))
        fun _ hnone => nomatch hline.symm.trans hnone
    | outside hline hline' =>
      exact steps (step_of_outside hearly (h ▸ hline)) (step_of_outside hearly' hline') (.level h)
        fun _ _ => hline'
    | @last line' hline hline' hblank hend =>
      have hstep := step_of_outside hearly (h ▸ hline)
      have hexecute := execute?_of_early hearly' hline'
      rw [execute?, Machine.run?_of_blank hblank] at hexecute
      have hstep' := Option.some.inj hexecute
      refine ⟨by rw [hstep, ← hstep'], .second rfl hearly hline ?_⟩
      rw [← hstep']
      exact .ahead h hline hend

theorem step_ahead (h : s.program = p) (hout : p.lineAt? s.machine.pc = none)
    (hout' : p'.lineAt? (s.machine.pc + 1) = none) :
    (s.relocate p' (s.machine.pc + 1)).step.1 = s.step.1 ∧
      Advances p p' 1 s (s.relocate p' (s.machine.pc + 1)) := by
  have hsame := s.early?_relocate p' (s.machine.pc + 1)
  cases hearly : s.early? with
  | some r =>
    exact steps (step_of_early hearly) (step_of_early (hsame.trans hearly)) (.ahead h hout hout')
      fun _ _ => hout'
  | none =>
    exact steps (step_of_outside hearly (h ▸ hout)) (step_of_outside (hsame.trans hearly) hout')
      (.ahead h hout hout') fun _ _ => hout'

/-- A step reports the same on both sides. -/
theorem step (h : Beside p p' lag s s') (hp : p.Alike p') :
    s'.step.1 = s.step.1 ∧ Advances p p' lag s s' := by
  cases h with
  | level h => exact step_level hp h
  | ahead h hout hout' => exact step_ahead h hout hout'

theorem program_eq (h : Beside p p' lag s s') : s.program = p := by
  cases h with
  | level h | ahead h => exact h

theorem program_eq' (h : Beside p p' lag s s') : s'.program = p' := by
  cases h <;> rfl

theorem printed_eq (h : Beside p p' lag s s') : s'.printed = s.printed := by
  cases h <;> rfl

theorem finished_eq (h : Beside p p' lag s s') : s'.finished = s.finished := by
  cases h <;> rfl

theorem interrupted_eq (h : Beside p p' lag s s') :
    s'.machine.interrupted = s.machine.interrupted := by
  cases h <;> rfl

theorem memory_eq (h : Beside p p' lag s s') : s'.machine.memory = s.machine.memory := by
  cases h <;> rfl

theorem pc_eq (h : Beside p p' lag s s') : s'.machine.pc = s.machine.pc + lag := by
  cases h with
  | level => exact (Int.add_zero _).symm
  | ahead => rfl

/-- The second program is left last. -/
theorem outside (h : Beside p p' lag s s') (hp : p.Alike p')
    (hout' : p'.lineAt? s'.machine.pc = none) : p.lineAt? s.machine.pc = none := by
  cases h with
  | level =>
    cases hp.faces s.machine.pc with
    | inside _ hline' | last _ hline' => cases hline'.symm.trans hout'
    | outside hout => exact hout
  | ahead _ hout => exact hout

theorem outside_of_ahead (h : Beside p p' 1 s s') : p'.lineAt? s'.machine.pc = none := by
  cases h with
  | ahead _ _ hout' => exact hout'

theorem deliver (h : Beside p p' lag s s') (text : String) :
    Beside p p' lag (s.deliver text) (s'.deliver text) := by
  cases h with
  | level h => exact .level (s := s.deliver text) h
  | ahead h hout hout' => exact .ahead (s := s.deliver text) h hout hout'

theorem stop (h : Beside p p' lag s s') : Beside p p' lag s.stop s'.stop := by
  cases h with
  | level h => exact .level (s := s.stop) h
  | ahead h hout hout' => exact .ahead (s := s.stop) h hout hout'

theorem takeOutput (h : Beside p p' lag s s') :
    Beside p p' lag s.takeOutput.2 s'.takeOutput.2 := by
  cases h with
  | level h => exact .level (s := s.takeOutput.2) h
  | ahead h hout hout' => exact .ahead (s := s.takeOutput.2) h hout hout'

end Beside

end Stepper

end AccumulatorMachine
