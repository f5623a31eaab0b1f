import AccumulatorMachine.Proofs.Driven
import AccumulatorMachine.Proofs.Stepper.Reached

/-! Single turns of a stepper and its user, and what a stop comes to. -/
namespace AccumulatorMachine

namespace Driven

theorem turn?_eq (d : Driven) :
    d.turn? = some ({ d with stepper := d.stepper.step.2 }.attend d.stepper.step.1) := by
  rw [turn?, Stepper.step?_eq_step, Option.map_some]

theorem stalls_iff {d : Driven} :
    d.stalls = true ↔ d.stepper.finished = none ∧ d.stepper.machine.interrupted = false ∧
      d.stepper.program.lineAt? d.stepper.machine.pc = none := by
  simp [stalls, and_assoc]

/-! ### Stops -/

/-- The stepper has been stopped, and nothing else has ended it. -/
structure Halted (d : Driven) : Prop where
  interrupted : d.stepper.machine.interrupted = true
  finished : ∀ status, d.stepper.finished = some status → status = .stopped

theorem Halted.watchedTurn {d d' : Driven} (h : d.Halted) (ht : d.watchedTurn? = some d') :
    d'.Halted := by
  cases hfinished : d.stepper.finished with
  | none =>
    rw [watchedTurn?_of_interrupted hfinished h.interrupted] at ht
    cases ht
    refine ⟨h.interrupted, ?_⟩
    rintro _ ⟨⟩
    rfl
  | some status =>
    obtain rfl := h.finished status hfinished
    rw [watchedTurn?_of_finished hfinished rfl] at ht
    cases ht
    exact h

theorem Halted.stopped {stepper : Stepper} {inputs : List String} {events : List Event}
    (h : stepper.finished = none) : Halted ⟨stepper.stop, inputs, events⟩ := by
  refine ⟨rfl, fun status hstatus => ?_⟩
  cases h.symm.trans hstatus

/-- A turn that does not stop the stepper is one of a run that has not left its program, and what it
asks for is answered with an input. -/
theorem turn_of_not_halted {d d' : Driven} (hrunning : d.stepper.finished = none)
    (ht : d.watchedTurn? = some d') (hnot : ¬ d'.Halted) :
    d' = { d with stepper := d.stepper.step.2 }.attend d.stepper.step.1 ∧
      (d.stepper.step.1 = .input → d.inputs ≠ []) := by
  have hstalls : d.stalls = false := by
    rw [Bool.eq_false_iff]
    intro hstalls
    rw [watchedTurn?_of_stalls hstalls] at ht
    cases ht
    exact hnot (.stopped hrunning)
  rw [watchedTurn?, hstalls, if_neg Bool.false_ne_true, turn?_eq] at ht
  cases ht
  refine ⟨rfl, fun hinput hinputs => hnot ?_⟩
  have hfinished := Stepper.finished_of_step hrunning
  rw [hinput] at hfinished ⊢
  simp only [attend, ask, answer, hinputs]
  exact .stopped hfinished

end Driven

end AccumulatorMachine
