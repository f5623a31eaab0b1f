import AccumulatorMachine.Proofs.Barrier.Pair
import AccumulatorMachine.Run.Play

/-! How the runner and the finisher of a run meet at its end. -/
namespace AccumulatorMachine.Run

/-- The runner has come to the completion barrier. -/
def hasSignalled : RunnerPhase → Bool
  | .asleep _ _ | .leaving _ | .finished _ => true
  | _ => false

/-- The runner has met the finisher, or wakes up to find that it has. -/
inductive RunnerMet : RunnerPhase → Prop
  | waking (report : Report) : RunnerMet (.asleep report 0)
  | leaving (report : Report) : RunnerMet (.leaving report)
  | finished (report : Report) : RunnerMet (.finished report)

inductive FinisherMet : FinisherPhase → Prop
  | waking : FinisherMet (.asleep 0)
  | freeing : FinisherMet (.freeing .passed)
  | calling : FinisherMet (.calling .passed)
  | finished : FinisherMet (.finished .passed)

/-- The joint positions of runner, completion barrier and finisher. -/
inductive Signals : RunnerPhase → Completion → FinisherPhase → Prop
  | before {runner} (h : hasSignalled runner = false) : Signals runner (.pair 0 0) .observing
  | observed {runner} (h : hasSignalled runner = false) : Signals runner (.pair 1 0) (.asleep 0)
  | signalled (report : Report) : Signals (.asleep report 0) (.pair 1 0) .observing
  | met {runner finisher} (hr : RunnerMet runner) (hf : FinisherMet finisher) :
      Signals runner (.pair 0 1) finisher

def Signalled (r : Run) : Prop := Signals r.runner r.completion r.finisher

/-- A runner that has yet to signal can do what it likes before. -/
theorem Signals.quiet {p q : RunnerPhase} {completion : Completion} {finisher : FinisherPhase}
    (h : Signals p completion finisher) (hp : hasSignalled p = false)
    (hq : hasSignalled q = false) : Signals q completion finisher := by
  cases h with
  | before _ => exact .before hq
  | observed _ => exact .observed hq
  | signalled _ => simp [hasSignalled] at hp
  | met hr _ => cases hr <;> simp [hasSignalled] at hp

/-- What holds of every outcome of an action that may have to wait holds of its result. -/
theorem of_map_eq_some {α : Type} {P : Run → Prop} {o : Option α} {f : α → Run} {s : Run}
    (hs : o.map f = some s) (h : ∀ a, P (f a)) : P s := by
  obtain ⟨a, -, rfl⟩ := Option.map_eq_some_iff.mp hs
  exact h a

/-- The runner has yet to come to the completion barrier. -/
structure Quiet (r s : Run) : Prop where
  completion : s.completion = r.completion
  finisher : s.finisher = r.finisher
  runner : hasSignalled s.runner = false

theorem quiet_afterLine (r : Run) (machine : Machine) (status : Status) :
    r.Quiet ({ r with machine }.afterLine status) := by
  cases status <;> exact ⟨rfl, rfl, rfl⟩

theorem quiet_runnerStep {r s : Run} (hs : r.runnerStep? = some s)
    (hq : hasSignalled r.runner = false) (hr : ∀ report, r.runner ≠ .signalling report) :
    r.Quiet s := by
  unfold runnerStep? at hs
  split at hs
  · split at hs <;> cases hs <;> exact ⟨rfl, rfl, rfl⟩
  · split at hs <;> cases hs <;> exact ⟨rfl, rfl, rfl⟩
  · cases hs
    unfold executeLine
    split
    · exact quiet_afterLine r _ _
    · exact ⟨rfl, rfl, rfl⟩
  · refine of_map_eq_some (P := r.Quiet) hs ?_
    rintro ⟨status, machine⟩
    exact quiet_afterLine r machine status
  · cases hs
    exact ⟨rfl, rfl, rfl⟩
  · split at hs
    · cases hs
      refine ⟨rfl, rfl, ?_⟩
      simp only [afterReport]
      split <;> split <;> rfl
    · exact of_map_eq_some (P := r.Quiet) hs fun _ => ⟨rfl, rfl, hq⟩
  · cases hs
    exact ⟨rfl, rfl, rfl⟩
  · next report part _ =>
    cases hs
    cases part <;> exact ⟨rfl, rfl, rfl⟩
  · next report hrun => exact absurd hrun (hr report)
  · next hrun => simp [hrun, hasSignalled] at hq
  · next hrun => simp [hrun, hasSignalled] at hq
  · exact of_map_eq_some (P := r.Quiet) hs fun _ => ⟨rfl, rfl, hq⟩
  · cases hs

theorem Signalled.runnerStep {r s : Run} (h : r.Signalled) (hs : r.runnerStep? = some s) :
    s.Signalled := by
  obtain ⟨shared, ⟨program, elapsed, statuses, completion, runner, printer, finisher⟩⟩ := r
  have h : Signals runner completion finisher := h
  cases runner with
  | signalling report =>
    cases h with
    | before _ =>
      simp [runnerStep?, signal, Completion.signal] at hs
      exact hs ▸ .signalled report
    | observed _ =>
      simp [runnerStep?, signal, Completion.signal, leaveRunner] at hs
      exact hs ▸ .met (.leaving report) .waking
    | met hr _ => nomatch hr
  | asleep report g =>
    cases h with
    | before hq | observed hq => simp [hasSignalled] at hq
    | signalled _ => simp [runnerStep?] at hs
    | met hr hf =>
      cases hr
      simp [runnerStep?, leaveRunner] at hs
      exact hs ▸ .met (.leaving report) hf
  | leaving report =>
    cases h with
    | before hq | observed hq => simp [hasSignalled] at hq
    | met hr hf =>
      simp only [runnerStep?] at hs
      split at hs
      · cases hs
        exact .met (.finished report) hf
      · exact of_map_eq_some (P := Signalled) hs fun _ => .met (.leaving report) hf
  | finished report => simp [runnerStep?] at hs
  | _ =>
    have hq := quiet_runnerStep hs rfl nofun
    unfold Signalled
    rw [hq.completion, hq.finisher]
    exact h.quiet rfl hq.runner

theorem Signalled.finisherStep {r s : Run} (h : r.Signalled) (hs : r.finisherStep? = some s) :
    s.Signalled := by
  obtain ⟨shared, ⟨program, elapsed, statuses, completion, runner, printer, finisher⟩⟩ := r
  have h : Signals runner completion finisher := h
  cases h with
  | before hq =>
    simp [finisherStep?, observe, Completion.observe] at hs
    exact hs ▸ .observed hq
  | observed hq => simp [finisherStep?] at hs
  | signalled report =>
    simp [finisherStep?, observe, Completion.observe] at hs
    exact hs ▸ .met (.waking report) .freeing
  | met hr hf =>
    cases hf <;> simp [finisherStep?] at hs
    · exact hs ▸ .met hr .freeing
    · exact hs ▸ .met hr .calling
    · exact hs ▸ .met hr .finished

/-- Runner, finisher and their barrier are as they were. -/
structure Untouched (r s : Run) : Prop where
  runner : s.runner = r.runner
  completion : s.completion = r.completion
  finisher : s.finisher = r.finisher

theorem untouched_printerStep {r s : Run} (hs : r.printerStep? = some s) : r.Untouched s := by
  unfold printerStep? at hs
  split at hs
  · split at hs
    · cases hs
      exact ⟨rfl, rfl, rfl⟩
    · cases hs
      exact ⟨rfl, rfl, rfl⟩
    · exact of_map_eq_some (P := r.Untouched) hs fun _ => ⟨rfl, rfl, rfl⟩
  · exact of_map_eq_some (P := r.Untouched) hs fun _ => ⟨rfl, rfl, rfl⟩
  · cases hs
    exact ⟨rfl, rfl, rfl⟩
  · split at hs
    · cases hs
      unfold afterRelease
      split <;> exact ⟨rfl, rfl, rfl⟩
    · exact of_map_eq_some (P := r.Untouched) hs fun _ => ⟨rfl, rfl, rfl⟩
  · split at hs
    · cases hs
      exact ⟨rfl, rfl, rfl⟩
    · exact of_map_eq_some (P := r.Untouched) hs fun _ => ⟨rfl, rfl, rfl⟩
  · exact of_map_eq_some (P := r.Untouched) hs fun _ => ⟨rfl, rfl, rfl⟩
  · cases hs

theorem Signalled.advance {act : Run → Option Run} (hact : act ∈ threads) {r s : Run}
    (h : r.Signalled) (hs : act r = some s) : s.Signalled := by
  obtain rfl | rfl | rfl := mem_threads.mp hact
  · exact h.runnerStep hs
  · have hu := untouched_printerStep hs
    unfold Signalled
    rw [hu.runner, hu.completion, hu.finisher]
    exact h
  · exact h.finisherStep hs

end AccumulatorMachine.Run
