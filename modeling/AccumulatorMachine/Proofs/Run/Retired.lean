import AccumulatorMachine.Proofs.OpenRun
import AccumulatorMachine.Proofs.Run.Deed
import AccumulatorMachine.Proofs.Session.Isolated

/-! A run that has freed its session. Its runner and its printer may still be on their way out, but
whatever they do from then on has nothing to do with what the runs of a session share. -/
namespace AccumulatorMachine

/-- The thread acts in the same way whatever the session is like, and leaves it as it is. -/
def Thread.Aloof (t : Threads) (thread : Thread) : Prop :=
  ∃ next : Option Threads, ∀ shared : Shared, thread.step? ⟨shared, t⟩ = next.map (Run.mk shared)

theorem Thread.Aloof.keeps {t : Threads} {thread : Thread} {shared : Shared} {s : Run}
    (h : thread.Aloof t) (hs : thread.step? ⟨shared, t⟩ = some s) : s.toShared = shared := by
  obtain ⟨next, hnext⟩ := h
  rw [hnext, Option.map_eq_some_iff] at hs
  obtain ⟨u, -, rfl⟩ := hs
  rfl

namespace Threads
open Run

/-- One of the threads acts, whatever the session is like by then. -/
def Next (t u : Threads) : Prop :=
  ∃ (thread : Thread) (before after : Shared), thread.step? ⟨before, t⟩ = some ⟨after, u⟩

/-- The runner or the printer may yet look at the machine or the console, or change them. -/
def CanTouch (t : Threads) : Prop :=
  ∃ u, Relation.ReflTransGen Next t u ∧ (¬ Thread.runner.Aloof u ∨ ¬ Thread.printer.Aloof u)

/-- The finisher has freed the session. -/
def hasFreed (t : Threads) : Bool :=
  match t.finisher with
  | .calling _ | .finished _ => true
  | _ => false

/-- The threads keep together at both of their barriers. -/
structure Joint (t : Threads) : Prop where
  linked : Links t.runner t.statuses t.printer
  signalled : Signals t.runner t.completion t.finisher

theorem joint_start (program : Program) (elapsed : Nat) :
    Joint { program, elapsed } where
  linked := Session.linked_accept {} program elapsed
  signalled := Session.signalled_accept {} program elapsed

theorem Joint.step {t : Threads} {thread : Thread} {shared : Shared} {s : Run} (h : t.Joint)
    (hs : thread.step? ⟨shared, t⟩ = some s) : s.toThreads.Joint where
  linked := (Linked.advance thread.step?_mem (r := ⟨shared, t⟩) h.linked hs).linked
  signalled := Signalled.advance thread.step?_mem (r := ⟨shared, t⟩) h.signalled hs

/-- An action leaves the session occupied or free as it was, or it is the one that frees it. -/
theorem step_frees {t : Threads} {thread : Thread} {shared : Shared} {s : Run}
    (hs : thread.step? ⟨shared, t⟩ = some s) :
    s.toThreads.hasFreed = t.hasFreed ∧ s.active = shared.active ∨
      t.hasFreed = false ∧ s.toThreads.hasFreed = true ∧ s.active = false := by
  have hconfined : Confined thread.step? →
      s.toThreads.hasFreed = t.hasFreed ∧ s.active = shared.active := by
    intro hc
    obtain ⟨hactive, -, hfinisher⟩ := hc.keeps hs
    unfold hasFreed
    rw [hfinisher]
    exact ⟨rfl, hactive⟩
  cases thread with
  | runner => exact .inl (hconfined confined_runnerStep)
  | printer => exact .inl (hconfined confined_printerStep)
  | finisher =>
    obtain ⟨program, elapsed, statuses, completion, runner, printer, finisher⟩ := t
    cases finisher with
    | observing =>
      simp only [Thread.step?, finisherStep?, observe, Option.some.injEq] at hs
      split at hs <;> subst hs <;> exact .inl ⟨rfl, rfl⟩
    | asleep g =>
      obtain ⟨verdict, -, rfl⟩ := Option.map_eq_some_iff.mp hs
      exact .inl ⟨rfl, rfl⟩
    | freeing verdict =>
      cases hs
      exact .inr ⟨rfl, rfl, rfl⟩
    | calling verdict =>
      cases hs
      exact .inl ⟨rfl, rfl⟩
    | finished verdict => cases hs

/-- What the finisher has freed stays free of this run. -/
theorem hasFreed_step {t : Threads} {thread : Thread} {shared : Shared} {s : Run}
    (h : t.hasFreed = true) (hs : thread.step? ⟨shared, t⟩ = some s) :
    s.toThreads.hasFreed = true := by
  obtain ⟨hsame, -⟩ | ⟨-, hfreed, -⟩ := step_frees hs
  · rw [hsame]
    exact h
  · exact hfreed

/-! ### On the way out -/

theorem aloof_runner {t : Threads} (h : RunnerMet t.runner) : Thread.runner.Aloof t := by
  refine ⟨(runnerStep? ⟨{}, t⟩).map Run.toThreads, fun shared => ?_⟩
  obtain ⟨program, elapsed, statuses, completion, runner, printer, finisher⟩ := t
  cases h with
  | waking report =>
    simp only [Thread.step?, runnerStep?, Option.map_map]
    rfl
  | leaving report =>
    simp only [Thread.step?, runnerStep?]
    split
    · rfl
    · simp only [Option.map_map]
      rfl
  | finished report => rfl

theorem aloof_printer {t : Threads} {g : Nat} {last : Status} (hlast : last.continues = false)
    (h : Freed g last t.statuses.receiver t.printer) : Thread.printer.Aloof t := by
  refine ⟨(printerStep? ⟨{}, t⟩).map Run.toThreads, fun shared => ?_⟩
  obtain ⟨program, elapsed, ⟨pacing, sender, receiver⟩, completion, runner, printer, finisher⟩ := t
  cases h with
  | waking | resetting | leaving | disconnecting =>
    simp only [Thread.step?, printerStep?, Option.map_map]
    rfl
  | released =>
    simp [Thread.step?, printerStep?, afterRelease, hlast, leavePrinter]
  | receiving hl => simp [hl] at hlast
  | gone | finished => rfl

/-- A run that has freed its session has met its finisher, so its last message is out and its reset
is over. -/
theorem Joint.met {t : Threads} (h : t.Joint) (hf : t.hasFreed = true) :
    RunnerMet t.runner ∧ ∃ g last, last.continues = false ∧
      Freed g last t.statuses.receiver t.printer := by
  have hmet : RunnerMet t.runner := by
    have hsig := h.signalled
    obtain ⟨program, elapsed, statuses, completion, runner, printer, finisher⟩ := t
    cases hsig with
    | before | observed | signalled => cases hf
    | met hr _ => exact hr
  refine ⟨hmet, ?_⟩
  have hl := h.linked
  obtain ⟨program, elapsed, ⟨pacing, sender, receiver⟩, completion, runner, printer, finisher⟩ := t
  cases hl with
  | working _ hw _ =>
    cases hw <;> cases hmet
  | presenting | waiting | awaited | returning => cases hmet
  | ending hlast _ hfreed => exact ⟨_, _, hlast, hfreed⟩

theorem Joint.aloof {t : Threads} (h : t.Joint) (hf : t.hasFreed = true) :
    Thread.runner.Aloof t ∧ Thread.printer.Aloof t := by
  obtain ⟨hmet, g, last, hlast, hfreed⟩ := h.met hf
  exact ⟨aloof_runner hmet, aloof_printer hlast hfreed⟩

theorem Joint.retired {t u : Threads} (h : t.Joint) (hf : t.hasFreed = true)
    (hu : Relation.ReflTransGen Next t u) : u.Joint ∧ u.hasFreed = true := by
  induction hu with
  | refl => exact ⟨h, hf⟩
  | tail _ hnext ih =>
    obtain ⟨thread, before, after, hs⟩ := hnext
    exact ⟨ih.1.step hs, hasFreed_step ih.2 hs⟩

/-- Neither the runner nor the printer of a run that has freed its session touches the machine or the
console again. -/
theorem Joint.not_canTouch {t : Threads} (h : t.Joint) (hf : t.hasFreed = true) :
    ¬ t.CanTouch := by
  rintro ⟨u, hu, htouch⟩
  obtain ⟨hjoint, hfreed⟩ := h.retired hf hu
  obtain ⟨hrunner, hprinter⟩ := hjoint.aloof hfreed
  obtain hnot | hnot := htouch
  · exact hnot hrunner
  · exact hnot hprinter

end Threads

end AccumulatorMachine
