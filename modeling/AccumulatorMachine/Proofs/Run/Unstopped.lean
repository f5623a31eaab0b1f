import AccumulatorMachine.Proofs.OpenRun.Messages

/-! Runs that nobody stops end without the status of a stop. -/
namespace AccumulatorMachine

/-- The status that is being handed over or has ended the run. -/
def Stage.lastStatus? : Stage → Option Status
  | .handing status | .rendered status _ | .shown status => some status
  | .busy phase => phase.ending?

namespace Scene

/-- Nobody has stopped the run. -/
structure Unstopped (s : Scene) : Prop where
  unmarked : s.machine.interrupted = false
  status : s.stage.lastStatus? ≠ some .stopped

variable {program : Program} {elapsed : Nat} {s t : Scene}

theorem lastStatus?_afterLine {status : Status} (h : status ≠ .stopped) :
    (Stage.afterLine status).lastStatus? ≠ some .stopped := by
  cases status with
  | stopped => exact absurd rfl h
  | _ => nofun

theorem Move.unstopped (h : Move program elapsed s t) (hs : s.Unstopped) : t.Unstopped := by
  refine ⟨?_, ?_⟩
  · rw [Bool.eq_false_iff]
    exact fun hmark => Bool.false_ne_true (hs.unmarked.symm.trans (h.interrupted hmark))
  · have hstatus := hs.status
    cases h with
    | stop hmark => cases hs.unmarked.symm.trans hmark
    | proceed | stall | fetch | reach => nofun
    | @execute m c line status m' hvisit =>
      refine lastStatus?_afterLine ?_
      rintro rfl
      have hvisits := m.visits_visitLine line
      rw [hvisit] at hvisits
      nomatch hvisits
    | take htake =>
      refine lastStatus?_afterLine ?_
      rintro rfl
      nomatch Machine.takes_takeInput? htake
    | @judge m c cause =>
      have hmark : m.interrupted = false := hs.unmarked
      rw [hmark]
      nofun
    | print | describe | append | note => exact hstatus
    | @resume m c status =>
      cases hc : status.continues with
      | true => simp [Stage.afterReport, hc, Stage.lastStatus?, RunnerPhase.ending?]
      | false => simpa [Stage.afterReport, hc, Stage.lastStatus?, RunnerPhase.ending?] using hstatus
    | @clear m c report part => cases part <;> exact hstatus
    | retire hr => cases hr <;> exact hstatus

theorem Unstopped.onMachine {m n : Machine} {c : List Message} {stage : Stage}
    (h : Unstopped ⟨m, c, stage⟩) (hmark : n.interrupted = m.interrupted) : Unstopped ⟨n, c, stage⟩ :=
  ⟨hmark.trans h.unmarked, h.status⟩

theorem Unstopped.of_report {r : Run} (h : r.scene.Unstopped) {report : Report}
    (hr : r.report? = some report) : report.status ≠ .stopped := by
  rintro hstopped
  have hstage : r.stage = .busy (.finished report) :=
    Run.stage_of_runner (Run.runner_of_report? hr) nofun
  have hstatus : r.stage.lastStatus? ≠ some .stopped := h.status
  rw [hstage] at hstatus
  exact hstatus (congrArg some hstopped)

end Scene

end AccumulatorMachine
