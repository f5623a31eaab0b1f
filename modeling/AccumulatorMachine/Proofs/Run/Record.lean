import AccumulatorMachine.Proofs.OpenRun.Messages
import AccumulatorMachine.Proofs.Run.Retired

/-! The record of a run: what its threads have done is what their positions say, in one order. First
come the messages, then the reset, and then the session is freed and the finisher calls back. -/
namespace AccumulatorMachine

namespace ResetPart

def all : List ResetPart := [.registers, .mailbox, .awaiting, .interrupted]

/-- The parts that a reset clears before this one. -/
def before : ResetPart → List ResetPart
  | .registers => []
  | .mailbox => [.registers]
  | .awaiting => [.registers, .mailbox]
  | .interrupted => [.registers, .mailbox, .awaiting]

end ResetPart

/-- The parts of the machine that the runner has cleared at its end. -/
def RunnerPhase.cleared : RunnerPhase → List ResetPart
  | .clearing _ part => part.before
  | .signalling _ | .asleep _ _ | .leaving _ | .finished _ => ResetPart.all
  | _ => []

/-- What the finisher has done for the session. -/
def FinisherPhase.done : FinisherPhase → List Deed
  | .calling _ => [.freed]
  | .finished _ => [.freed, .calledBack]
  | _ => []

namespace Run

/-- The parts that the runner has cleared are noted as it goes. -/
def Clears (r s : Run) : Prop :=
  s.runner.cleared.map Deed.cleared =
    r.runner.cleared.map Deed.cleared ++ r.runner.deed?.toList

theorem cleared_afterLine (r : Run) (status : Status) :
    (r.afterLine status).runner.cleared = [] := by
  cases status <;> rfl

theorem clears_runnerStep {r s : Run} (hs : r.runnerStep? = some s) : Clears r s := by
  obtain ⟨shared, ⟨program, elapsed, statuses, completion, runner, printer, finisher⟩⟩ := r
  cases runner with
  | testing | fetching =>
    simp only [runnerStep?] at hs
    split at hs <;> cases hs <;> rfl
  | executing line =>
    cases hs
    unfold executeLine
    split
    · exact congrArg (List.map Deed.cleared) (cleared_afterLine _ _)
    · rfl
  | taking address =>
    refine of_map_eq_some (P := Clears _) hs ?_
    rintro ⟨status, machine⟩
    exact congrArg (List.map Deed.cleared) (cleared_afterLine _ status)
  | judging | noting =>
    cases hs
    rfl
  | reporting status =>
    simp only [runnerStep?] at hs
    split at hs
    · cases hs
      unfold Clears afterReport
      dsimp only
      split <;> split <;> rfl
    · exact of_map_eq_some (P := Clears _) hs fun _ => rfl
  | clearing report part =>
    cases hs
    cases part <;> rfl
  | signalling report =>
    cases hs
    unfold signal
    split <;> rfl
  | asleep | absent => exact of_map_eq_some (P := Clears _) hs fun _ => rfl
  | leaving report =>
    simp only [runnerStep?] at hs
    split at hs
    · cases hs
      rfl
    · exact of_map_eq_some (P := Clears _) hs fun _ => rfl
  | finished report => cases hs

/-- The finisher's part of the record, for which the runner and the printer do not matter. -/
structure Finishes (r s : Run) : Prop where
  runner : s.runner = r.runner
  done : s.finisher.done = r.finisher.done ++ r.finisher.deed?.toList

theorem finishes_finisherStep {r s : Run} (hs : r.finisherStep? = some s) : Finishes r s := by
  obtain ⟨shared, ⟨program, elapsed, statuses, completion, runner, printer, finisher⟩⟩ := r
  cases finisher with
  | observing =>
    cases hs
    unfold observe
    split <;> exact ⟨rfl, rfl⟩
  | asleep g => exact of_map_eq_some (P := Finishes _) hs fun _ => ⟨rfl, rfl⟩
  | freeing verdict | calling verdict =>
    cases hs
    exact ⟨rfl, rfl⟩
  | finished verdict => cases hs

end Run

namespace Threads
open Run

def stage (t : Threads) : Stage := Run.stage ⟨{}, t⟩

/-- What has been done since the last message. -/
def closing (t : Threads) : List Deed := t.runner.cleared.map .cleared ++ t.finisher.done

/-- The deeds of the threads that have come to where they are. -/
def Record (t : Threads) (deeds : List Deed) : Prop :=
  ∃ messages log, Tells t.elapsed log messages t.stage ∧ deeds = messages.map .shown ++ t.closing

theorem record_start (program : Program) (elapsed : Nat) : Record { program, elapsed } [] :=
  ⟨[], {}, .start elapsed, rfl⟩

/-! ### Messages -/

/-- A run acts as it would on an empty console. -/
theorem act_on_console {act : Run → Option Run} (hact : act ∈ Run.threads) (t : Threads)
    (shared : Shared) (console : List Message) (callbacks : Nat) :
    act ⟨{ shared with console, callbacks }, t⟩ =
      (act ⟨{ shared with console := [], callbacks := 0 }, t⟩).map
        (·.after { console, callbacks }) := by
  rw [← act_after hact]
  simp [Run.after]

/-- No thread looks at the console or counts the calls back. -/
theorem step_on_console {t : Threads} {thread : Thread} {shared : Shared} {s : Run}
    (hs : thread.step? ⟨shared, t⟩ = some s) (console : List Message) :
    ∃ shared', thread.step? ⟨{ shared with console, callbacks := 0 }, t⟩ =
      some ⟨shared', s.toThreads⟩ := by
  have hhere := act_on_console thread.step?_mem t shared shared.console shared.callbacks
  have hthere := act_on_console thread.step?_mem t shared console 0
  rw [hs, eq_comm, Option.map_eq_some_iff] at hhere
  obtain ⟨u, hu, rfl⟩ := hhere
  rw [hu] at hthere
  exact ⟨_, hthere⟩

/-- The messages of a run grow by what is shown. -/
theorem tells_step {t : Threads} {thread : Thread} {shared : Shared} {s : Run} {log : Log}
    {messages : List Message} (hj : t.Joint) (h : Tells t.elapsed log messages t.stage)
    (hs : thread.step? ⟨shared, t⟩ = some s) :
    ∃ log', Tells s.elapsed log' (messages ++ ((thread.deed? t).bind Deed.message?).toList)
      s.toThreads.stage := by
  obtain ⟨shared', hstep⟩ := step_on_console hs messages
  have hadvance := Linked.advance thread.step?_mem
    (r := ⟨{ shared with console := messages, callbacks := 0 }, t⟩) hj.linked hstep
  have hconsole : shared'.console =
      messages ++ ((thread.deed? t).bind Deed.message?).toList :=
    Deed.Explains.console (does_step hstep)
  have htells : Scene.Tells [] t.elapsed log ⟨shared.machine, messages, t.stage⟩ :=
    ⟨messages, rfl, h⟩
  have helapsed : s.elapsed = t.elapsed := hadvance.elapsed
  rw [helapsed, ← hconsole]
  obtain ⟨hscene, -⟩ | ⟨hmove, -⟩ := hadvance.seen
  · have hstage : s.toThreads.stage = t.stage := congrArg Scene.stage hscene
    have hsame : shared'.console = messages := congrArg Scene.console hscene
    rw [hstage, hsame]
    exact ⟨log, h⟩
  · obtain ⟨messages', hmessages, hnext⟩ := htells.move hmove
    have heq : shared'.console = messages' := hmessages
    rw [heq]
    exact ⟨_, hnext⟩

/-! ### What closes a run -/

/-- Until the runner has come to the completion barrier, the finisher has done nothing. -/
theorem Joint.done {t : Threads} (hj : t.Joint) (h : hasSignalled t.runner = false) :
    t.finisher.done = [] := by
  have hsig := hj.signalled
  obtain ⟨program, elapsed, statuses, completion, runner, printer, finisher⟩ := t
  cases hsig with
  | before | observed | signalled => rfl
  | met hr _ => cases hr <;> cases h

/-- A message is shown only while the runner waits for it. -/
theorem Joint.closing {t : Threads} (hj : t.Joint) {status : Status} {text : Option String}
    (hp : t.printer = .appending status text) : t.closing = [] := by
  have hrunner : ∃ status, t.runner = .reporting status := by
    have hl := hj.linked
    obtain ⟨program, elapsed, statuses, completion, runner, printer, finisher⟩ := t
    obtain rfl : printer = _ := hp
    cases hl with
    | presenting | waiting => exact ⟨_, rfl⟩
    | working _ _ hf | returning _ _ hf | ending _ _ hf => cases hf
  obtain ⟨status, hrunner⟩ := hrunner
  have hdone := hj.done (by rw [hrunner]; rfl)
  unfold Threads.closing
  rw [hrunner, hdone]
  rfl

/-- Either the closing deeds go on, or they have yet to begin and there is a message. -/
theorem closing_step {t : Threads} {thread : Thread} {shared : Shared} {s : Run} (hj : t.Joint)
    (hs : thread.step? ⟨shared, t⟩ = some s) :
    s.toThreads.closing = t.closing ++ (thread.deed? t).toList ∧
        (thread.deed? t).bind Deed.message? = none ∨
      t.closing = [] ∧ s.toThreads.closing = [] ∧
        ∃ message, thread.deed? t = some (.shown message) := by
  cases thread with
  | runner =>
    have hclears : Clears ⟨shared, t⟩ s := clears_runnerStep hs
    obtain ⟨-, -, hfinisher⟩ := confined_runnerStep.keeps hs
    left
    unfold Threads.closing
    rw [hclears, hfinisher]
    cases hrun : t.runner with
    | clearing report part =>
      have hdone := hj.done (by rw [hrun]; rfl)
      dsimp only
      rw [hdone]
      simp [Thread.deed?, RunnerPhase.deed?, hrun, Deed.message?]
    | _ => simp [Thread.deed?, RunnerPhase.deed?, hrun]
  | printer =>
    have huntouched := untouched_printerStep hs
    have hclosing : s.toThreads.closing = t.closing := by
      unfold Threads.closing
      rw [huntouched.runner, huntouched.finisher]
    cases hp : t.printer with
    | appending status text =>
      cases text with
      | none =>
        left
        simp [Thread.deed?, PrinterPhase.deed?, hp, hclosing]
      | some text =>
        right
        have hempty := hj.closing hp
        refine ⟨hempty, hclosing.trans hempty, ⟨status, text⟩, ?_⟩
        simp [Thread.deed?, PrinterPhase.deed?, hp]
    | _ =>
      left
      simp [Thread.deed?, PrinterPhase.deed?, hp, hclosing]
  | finisher =>
    have hfinishes : Finishes ⟨shared, t⟩ s := finishes_finisherStep hs
    left
    unfold Threads.closing
    rw [hfinishes.runner, hfinishes.done, List.append_assoc]
    refine ⟨rfl, ?_⟩
    cases hf : t.finisher <;> simp [Thread.deed?, FinisherPhase.deed?, hf, Deed.message?]

theorem Record.step {t : Threads} {thread : Thread} {shared : Shared} {s : Run} {deeds : List Deed}
    (h : t.Record deeds) (hj : t.Joint) (hs : thread.step? ⟨shared, t⟩ = some s) :
    s.toThreads.Record (deeds ++ (thread.deed? t).toList) := by
  obtain ⟨messages, log, htells, rfl⟩ := h
  obtain ⟨log', htells'⟩ := tells_step hj htells hs
  refine ⟨_, log', htells', ?_⟩
  obtain ⟨hclosing, hnone⟩ | ⟨hbefore, hafter, message, hdeed⟩ := closing_step hj hs
  · rw [hclosing, hnone, List.append_assoc]
    simp
  · rw [hbefore, hafter, hdeed]
    simp [Deed.message?]

/-! ### What a record says -/

theorem Record.freed_iff {t : Threads} {deeds : List Deed} (h : t.Record deeds) :
    .freed ∈ deeds ↔ t.hasFreed = true := by
  obtain ⟨messages, log, -, rfl⟩ := h
  cases hf : t.finisher <;> simp [closing, FinisherPhase.done, hasFreed, hf]

theorem Record.calledBack_iff {t : Threads} {deeds : List Deed} (h : t.Record deeds) :
    .calledBack ∈ deeds ↔ ∃ verdict, t.finisher = .finished verdict := by
  obtain ⟨messages, log, -, rfl⟩ := h
  cases hf : t.finisher <;> simp [closing, FinisherPhase.done, hf]

/-- Whoever has met the finisher has reset the machine, after the last message. -/
theorem ending_of_met {t : Threads} (h : RunnerMet t.runner) :
    t.runner.cleared = ResetPart.all ∧ ∃ status, t.stage.ending? = some status := by
  obtain ⟨program, elapsed, statuses, completion, runner, printer, finisher⟩ := t
  cases h with
  | waking report | leaving report | finished report => exact ⟨rfl, report.status, rfl⟩

/-- A finisher that has called back has done so last, and once. -/
theorem Record.complete {t : Threads} {deeds : List Deed} (h : t.Record deeds) (hj : t.Joint)
    (hcalled : .calledBack ∈ deeds) :
    ∃ messages status, EndsWith messages status ∧
      deeds = messages.map .shown ++ ResetPart.all.map .cleared ++ [.freed, .calledBack] := by
  obtain ⟨verdict, hfinisher⟩ := h.calledBack_iff.mp hcalled
  obtain ⟨messages, log, htells, rfl⟩ := h
  obtain ⟨hmet, -⟩ := hj.met (by simp [hasFreed, hfinisher])
  obtain ⟨hcleared, status, hending⟩ := ending_of_met hmet
  refine ⟨messages, status, htells.ended status hending, ?_⟩
  unfold closing
  rw [hcleared, hfinisher, List.append_assoc]
  rfl

end Threads

end AccumulatorMachine
