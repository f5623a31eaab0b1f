import AccumulatorMachine.Proofs.Stepper

/-! A stepper has one thread, so nobody could wake it. No step of it waits. -/
namespace AccumulatorMachine.Stepper

theorem Waits.step {s : Stepper} (h : s.Waits) : s.step = (.input, s) := step_eq_of_step? h.step?

/-- The wait goes on until somebody delivers an input or stops the stepper. -/
theorem Waits.after {s : Stepper} (h : s.Waits) {uses : List Use}
    (hdeliver : ∀ text, .deliver text ∉ uses) (hstop : .stop ∉ uses) : (s.after uses).Waits := by
  have hkept : (∀ u ∈ s.stepsOf uses, u.Waits) ∧ (s.after uses).Waits := by
    refine invariant (fun u hu => ?_) (fun u hu => ?_) (fun _ text hmem _ => ?_) (fun _ hmem _ => ?_) h
    · rw [hu.step]
      exact hu
    · exact ⟨hu.running, hu.unmarked, hu.awaiting, hu.empty⟩
    · exact absurd hmem (hdeliver text)
    · exact absurd hmem hstop
  exact hkept.2

/-- Whoever is asked for an input has to deliver it. -/
theorem Sound.waits_of_asked {s : Stepper} (h : s.Sound) (hstep : s.step.1 = .input) :
    s.step.2.Waits := by
  obtain hidles | ⟨line, hline, hends⟩ := h.step_cases
  · generalize s.step = r at hidles hstep
    cases hidles with
    | @ended status hfinished =>
      obtain rfl : status = .input := hstep
      cases h.final .input hfinished
    | waits hwaits => exact hwaits
    | stopped | outside => cases hstep
  · generalize s.step = r at hends hstep
    cases hends with
    | asked _ _ hempty => exact ⟨hline.running, hline.unmarked, rfl, hempty⟩
    | _ => cases hstep

/-- No step of a stepper waits for the mailbox, whatever its owner does in which order: an input
instruction takes a value, and a printed value is fetched, only from a mailbox that holds one. A
step that has to do without an undelivered input asks for it and changes nothing, and all steps
after a question do so until an input is delivered or the stepper is stopped. -/
theorem step_never_waits (text : String) (uses : List Use) {s : Stepper}
    (h : s ∈ (ofText text).stepsOf uses) :
    (∀ m, s.Reads m → m.mailbox.value.isSome = true) ∧
    s.step? = some s.step ∧
    (s.Waits → s.step = (.input, s)) ∧
    (s.step.1 = .input → ∀ later, (∀ typed, .deliver typed ∉ later) → .stop ∉ later →
      (s.step.2.after later).Waits) := by
  have hsound : s.Sound := (sound_of_uses (sound_ofText text) uses).1 s h
  refine ⟨fun _ hreads => hreads.ready, s.step?_eq_step, fun hwaits => hwaits.step, ?_⟩
  intro hasked later hdeliver hstop
  exact (hsound.waits_of_asked hasked).after hdeliver hstop

/-- A stepper that is about to ask. -/
def asking : Stepper := (ofText "SET 1\nINP 1").step.2

theorem step_never_waits_asking :
    asking ∈ (ofText "SET 1\nINP 1").stepsOf [.step, .step] ∧ asking.step.1 = .input ∧
      asking.step? = some asking.step ∧ (asking.step.2.after [.step, .takeOutput, .step]).Waits := by
  have hmem : asking ∈ (ofText "SET 1\nINP 1").stepsOf [.step, .step] := by
    simp [stepsOf, Use.steps, Use.apply, asking]
  have hasked : asking.step.1 = .input := by decide +kernel
  obtain ⟨-, hstep, -, hwaits⟩ := step_never_waits "SET 1\nINP 1" [.step, .step] hmem
  exact ⟨hmem, hasked, hstep, hwaits hasked _ (by simp) (by simp)⟩

end AccumulatorMachine.Stepper
