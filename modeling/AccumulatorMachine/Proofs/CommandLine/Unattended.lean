import AccumulatorMachine.Proofs.CommandLine.Attendant
import AccumulatorMachine.Proofs.CommandLine.Debugger
import AccumulatorMachine.Proofs.Hosted.Refined
import AccumulatorMachine.Proofs.Run.Unstopped

/-! A run at a terminal at which no line is typed, because there are inputs for all the questions of the
program. It comes to the end of a stepper that is given the same inputs, and shows its values. -/
namespace AccumulatorMachine

namespace Attendant

variable {text : String} {inputs : List String} {elapsed : Nat} {a b : Attendant}

/-! ### The run behind an attendant -/

/-- The run with a front end that has read what the attendant has answered. A question to which there
is no input counts as one that has not been read. -/
def hosted (a : Attendant) : Hosted :=
  ⟨a.run, { inputs := a.inputs, read := if a.phase = .asking then a.received - 1 else a.received }⟩

theorem hosted_of_phase {phase : AttendantPhase} (h : a.phase ≠ .asking)
    (hphase : phase ≠ .asking) : hosted { a with phase } = a.hosted := by
  simp [hosted, h, hphase]

theorem hosted_receive (hphase : a.phase = .receiving) {m : Message}
    (hm : a.run.console[a.received]? = some m) :
    (a.receive m).hosted = a.hosted ∨ a.hosted.respond? = some (a.receive m).hosted := by
  have hread : a.hosted.respond? = some
      (let h : Hosted := ⟨a.run, { inputs := a.inputs, read := a.received + 1 }⟩
      if m.status = .input then h.answer else h) := by
    simp [Hosted.respond?, hosted, hphase, hm]
  rw [hread, receive_eq]
  cases hstatus : m.status with
  | input =>
    cases hinputs : a.inputs with
    | nil =>
      left
      simp [request, noted, hinputs, hosted, hphase]
    | cons text inputs =>
      right
      simp [request, noted, hinputs, hosted, answer, Hosted.answer, Hosted.onMachine, Run.deliver]
  | ok | output =>
    right
    simp [Status.continues, noted, hosted, hphase]
  | failed | succeeded | stopped =>
    right
    simp [Status.continues, noted, hosted]

theorem hosted_step (hb : a.Moves b) :
    b.hosted = a.hosted ∨ ∃ act ∈ Hosted.threads false, act a.hosted = some b.hosted := by
  cases hb with
  | receive hphase hm =>
    exact (hosted_receive hphase hm).imp_right fun h => ⟨_, by simp [Hosted.threads], h⟩
  | timeOut hphase => exact .inl (hosted_of_phase (by simp [hphase]) (by simp))
  | test hphase =>
    exact .inl (hosted_of_phase (by simp [hphase]) (by cases a.run.isOver <;> simp))
  | @run act run hact hrun =>
    refine .inr ⟨Hosted.onRun act, List.mem_append_right _ (List.mem_map_of_mem hact), ?_⟩
    simp [Hosted.onRun, hosted, hrun]

/-! ### Nobody stops the run -/

theorem run_receive (a : Attendant) (m : Message) :
    ∃ machine, (a.receive m).run = { a.run with machine } ∧
      machine.interrupted = a.run.machine.interrupted := by
  rw [receive_eq]
  cases m.status with
  | input =>
    cases hinputs : a.inputs with
    | nil =>
      refine ⟨a.run.machine, ?_, rfl⟩
      simp [request, noted, hinputs]
    | cons text inputs =>
      refine ⟨a.run.machine.deliver text, ?_, rfl⟩
      simp [request, noted, hinputs, answer, Run.deliver]
  | _ => exact ⟨a.run.machine, rfl, rfl⟩

/-- What is kept as long as no line is typed. -/
structure Unattended (text : String) (inputs : List String) (elapsed : Nat) (a : Attendant) : Prop where
  sound : a.Sound
  unstopped : a.run.scene.Unstopped
  hosted : Schedule.Reachable (Hosted.threads false) (Hosted.start {} text inputs elapsed) a.hosted
  elapsed : a.run.elapsed = elapsed

theorem Unattended.run (h : Unattended text inputs elapsed a) (hb : a.Moves b) :
    b.run.scene.Unstopped ∧ b.run.elapsed = elapsed := by
  cases hb with
  | @receive m =>
    obtain ⟨machine, hrun, hmark⟩ := a.run_receive m
    rw [hrun]
    exact ⟨h.unstopped.onMachine hmark, h.elapsed⟩
  | timeOut | test => exact ⟨h.unstopped, h.elapsed⟩
  | run hact hrun =>
    have hadvance := h.sound.linked.advance hact hrun
    refine ⟨?_, hadvance.elapsed.trans h.elapsed⟩
    obtain ⟨hscene, -⟩ | ⟨hmove, -⟩ := hadvance.seen
    · exact hscene ▸ h.unstopped
    · exact hmove.unstopped h.unstopped

theorem unattended_of_reachable {echoPrompts : Bool}
    (h : Schedule.Reachable threads (start text inputs echoPrompts elapsed) a) :
    Unattended text inputs elapsed a := by
  refine h.invariant ⟨.start text inputs echoPrompts elapsed, ⟨rfl, nofun⟩, .refl, rfl⟩
    fun act hact a b ha hb => ?_
  have hmoves := moves_of_threads hact hb
  obtain ⟨hunstopped, helapsed⟩ := ha.run hmoves
  refine ⟨ha.sound.step hmoves, hunstopped, ?_, helapsed⟩
  obtain heq | ⟨act', hact', hb'⟩ := hosted_step hmoves
  · rw [heq]
    exact ha.hosted
  · exact ha.hosted.step hact' hb'

/-! ### The end -/

/-- The stepper comes to the end that a run reports, and nobody has stopped it. -/
theorem Unattended.driven (h : Unattended text inputs elapsed a) {r : Report}
    (hr : a.run.report? = some r) :
    a.run.program = Program.ofText text ∧
      ∃ n d, (Driven.ofText text inputs).watchedTurns? n = some d ∧ ¬ d.Halted ∧
        d.stepper.finished = some r.status ∧ r.status.continues = false ∧
        d.stepper.machine.snapshot = r.snapshot ∧
        a.run.console.filterMap Message.event? = d.events := by
  obtain ⟨n, d, hd, hs⟩ := Hosted.exists_sound h.hosted
  obtain ⟨hfinished, hsnapshot, htold⟩ := hs.of_report (Run.runner_of_report? hr)
  have hends := hs.paired.continues hfinished
  refine ⟨hs.runs, n, d, hd, fun hhalted => ?_, hfinished, hends, hsnapshot.symm,
    htold.complete hends⟩
  exact h.unstopped.of_report hr (hhalted.finished _ hfinished)

theorem value?_message (m : Message) :
    Printed.value? (.message m) = m.event?.bind Event.value? := by
  cases hstatus : m.status <;> simp [Printed.value?, Message.event?, Event.value?, hstatus]

/-- No value is left out of what is printed. -/
theorem values_of_shows (a : Attendant) (l : List Message) :
    ((l.filter a.shows).map Printed.message).filterMap Printed.value? =
      (l.filterMap Message.event?).filterMap Event.value? := by
  rw [List.filterMap_map, List.filterMap_filter, List.filterMap_filterMap]
  refine congrArg (List.filterMap · l) (funext fun m => ?_)
  rw [Function.comp_apply, value?_message]
  split
  · rfl
  · next hnot =>
    have hinput : m.status = .input := by
      simp only [shows, Bool.or_eq_true, bne_iff_ne, not_or, not_not] at hnot
      exact hnot.1
    simp [Message.event?, hinput, Event.value?]

/-- Once every message has been received, the last thing printed is what is said of the end. -/
theorem Unattended.printed (h : Unattended text inputs elapsed a) {r : Report}
    (hr : a.run.report? = some r) (hall : a.received = a.run.console.length) :
    ∃ before message, r.status.describe? elapsed = some message ∧
      a.printed = before ++ [.message ⟨r.status, message⟩] ∧
      before.filterMap Printed.value? =
        (a.run.console.filterMap Message.event?).filterMap Event.value? := by
  obtain ⟨log, messages, hmessages, htells⟩ := h.sound.tells
  have hconsole : a.run.console = messages := hmessages
  obtain ⟨before, message, hends, hstatus, -⟩ := htells.ended _ (Run.ending?_of_report? hr)
  have hdescribed : r.status.describe? elapsed = some message := by
    obtain houtput | htext := htells.texts ⟨r.status, message⟩ (by simp [hends])
    · have houtput : r.status = .output := houtput
      rw [houtput] at hstatus
      cases hstatus
    · exact h.elapsed ▸ htext
  have hshows : a.shows ⟨r.status, message⟩ = true := by
    cases hinput : r.status with
    | input =>
      rw [hinput] at hstatus
      cases hstatus
    | _ => rfl
  have hvalue : [Printed.message ⟨r.status, message⟩].filterMap Printed.value? = [] :=
    List.filterMap_cons_none (Printed.value?_of_ends hstatus message)
  have hmessages : (a.run.console.filter a.shows).map Printed.message =
      (before.filter a.shows).map Printed.message ++ [.message ⟨r.status, message⟩] := by
    simp [hconsole, hends, hshows]
  have hvalues := a.values_of_shows a.run.console
  rw [hmessages, List.filterMap_append, hvalue, List.append_nil] at hvalues
  have hprinted := h.sound.printed
  rw [Sound.taken_of_received hall, hmessages] at hprinted
  exact ⟨_, message, hdescribed, hprinted, hvalues⟩

end Attendant

end AccumulatorMachine
