import AccumulatorMachine.Proofs.OpenRun.Log

/-! The messages of a run. Every status that is handed over comes to the console in its turn, unless it
is a value that a stop has made unreadable, and the one that ends the run comes last. -/
namespace AccumulatorMachine

/-- The status with which the runner has left its loop. -/
def RunnerPhase.ending? : RunnerPhase → Option Status
  | .noting status => some status
  | .clearing report _ | .signalling report | .asleep report _ | .leaving report
  | .finished report => some report.status
  | _ => none

namespace Stage

/-- The status that ends the run, once the user has been told of it. -/
def ending? : Stage → Option Status
  | .busy phase => phase.ending?
  | .shown status => if status.continues then none else some status
  | _ => none

theorem ending?_shown (status : Status) :
    ending? (.shown status) = if status.continues then none else some status := rfl

/-- The status of which the user will be told next. -/
def pending : Stage → List Status
  | .handing status => [status]
  | .rendered status text => (text.map fun _ => status).toList
  | _ => []

end Stage

/-- The last message is the only one that does not let the run go on. -/
def EndsWith (messages : List Message) (status : Status) : Prop :=
  ∃ before text, messages = before ++ [⟨status, text⟩] ∧ status.continues = false ∧
    ∀ m ∈ before, m.status.continues = true

/-- The messages that a run has added to its console. -/
structure Tells (elapsed : Nat) (log : Log) (messages : List Message) (stage : Stage) : Prop where
  told : log.told = messages.map (·.status) ++ stage.pending
  handOvers : ∀ h ∈ log.handOvers, h.status ≠ .ok ∧ (h.lost = true → h.status = .output)
  texts : ∀ m ∈ messages, m.status = .output ∨ m.status.describe? elapsed = some m.text
  handing : ∀ status, stage = .handing status → ∃ before, log.handOvers = before ++ [⟨status, false⟩]
  rendered : ∀ status text, stage = .rendered status text →
    status = .output ∨ text = status.describe? elapsed
  ongoing : stage.ending? = none → ∀ m ∈ messages, m.status.continues = true
  ended : ∀ status, stage.ending? = some status → EndsWith messages status

namespace Tells
variable {elapsed : Nat} {log : Log} {messages : List Message}

theorem start (elapsed : Nat) : Tells elapsed {} [] (.busy .testing) where
  told := rfl
  handOvers := nofun
  texts := nofun
  handing := nofun
  rendered := nofun
  ongoing := nofun
  ended := nofun

/-- The runner goes on with its own work. -/
theorem busy {p q : RunnerPhase} (h : Tells elapsed log messages (.busy p)) (he : q.ending? = p.ending?) :
    Tells elapsed log messages (.busy q) where
  told := h.told
  handOvers := h.handOvers
  texts := h.texts
  handing := nofun
  rendered := nofun
  ongoing hq := h.ongoing (he.symm.trans hq)
  ended status hq := h.ended status (he.symm.trans hq)

theorem line {p : RunnerPhase} (h : Tells elapsed log messages (.busy p)) (line : String) :
    Tells elapsed { log with lines := log.lines ++ [line] } messages (.busy p) where
  told := h.told
  handOvers := h.handOvers
  texts := h.texts
  handing := nofun
  rendered := nofun
  ongoing := h.ongoing
  ended := h.ended

theorem handOver {p : RunnerPhase} {status : Status} (h : Tells elapsed log messages (.busy p))
    (hp : p.ending? = none) (hs : status ≠ .ok) :
    Tells elapsed (log.handOver status) messages (.handing status) where
  told := by
    rw [Log.told_handOver, h.told]
    simp [Stage.pending]
  handOvers := by
    intro g hg
    simp only [Log.handOver, List.mem_append, List.mem_singleton] at hg
    obtain hg | rfl := hg
    · exact h.handOvers g hg
    · exact ⟨hs, fun hlost => absurd hlost Bool.false_ne_true⟩
  texts := h.texts
  handing := by
    rintro _ ⟨⟩
    exact ⟨_, rfl⟩
  rendered := nofun
  ongoing _ := h.ongoing hp
  ended := nofun

/-- The value of an output has been lost. -/
theorem lose (h : Tells elapsed log messages (.handing .output)) :
    Tells elapsed log.lose messages (.rendered .output none) := by
  obtain ⟨before, hbefore⟩ := h.handing .output rfl
  have hlose : log.lose.handOvers = before ++ [⟨.output, true⟩] := by
    unfold Log.lose
    rw [hbefore, List.modifyLast_concat]
  have htold := h.told
  unfold Log.told at htold
  rw [hbefore] at htold
  simp [Stage.pending] at htold
  refine ⟨?_, ?_, h.texts, nofun, ?_, fun _ => h.ongoing rfl, nofun⟩
  · unfold Log.told
    rw [hlose]
    simpa [Stage.pending] using htold
  · intro g hg
    rw [hlose, List.mem_append, List.mem_singleton] at hg
    obtain hg | rfl := hg
    · exact h.handOvers g (hbefore ▸ List.mem_append_left _ hg)
    · exact ⟨nofun, fun _ => rfl⟩
  · rintro _ _ ⟨⟩
    exact .inl rfl

theorem find {status : Status} {text : String} (h : Tells elapsed log messages (.handing status))
    (ht : status = .output ∨ status.describe? elapsed = some text) :
    Tells elapsed log messages (.rendered status (some text)) where
  told := h.told
  handOvers := h.handOvers
  texts := h.texts
  handing := nofun
  rendered := by
    rintro _ _ ⟨⟩
    exact ht.imp_right Eq.symm
  ongoing _ := h.ongoing rfl
  ended := nofun

theorem append {status : Status} {text : Option String}
    (h : Tells elapsed log messages (.rendered status text)) :
    Tells elapsed log (messages ++ (text.map (Message.mk status)).toList) (.shown status) := by
  have hbefore := h.ongoing rfl
  refine ⟨?_, h.handOvers, ?_, nofun, nofun, ?_, ?_⟩
  · rw [h.told]
    cases text <;> simp [Stage.pending]
  · intro m hm
    rw [List.mem_append] at hm
    obtain hm | hm := hm
    · exact h.texts m hm
    · cases text with
      | none => nomatch hm
      | some text =>
        obtain rfl : m = ⟨status, text⟩ := by simpa using hm
        exact (h.rendered status _ rfl).imp_right Eq.symm
  · intro he m hm
    rw [List.mem_append] at hm
    obtain hm | hm := hm
    · exact hbefore m hm
    · cases text with
      | none => nomatch hm
      | some text =>
        obtain rfl : m = ⟨status, text⟩ := by simpa using hm
        simpa [Stage.ending?_shown] using he
  · intro last he
    rw [Stage.ending?_shown] at he
    split at he
    · cases he
    next hc =>
    obtain rfl : status = last := Option.some.inj he
    have hc : status.continues = false := by simpa using hc
    -- only a value can be without a text, and a run does not end with one
    have htext : ∃ s, text = some s := by
      obtain rfl | rfl := h.rendered status text rfl
      · cases hc
      · exact Status.exists_describe?_of_ends elapsed hc
    obtain ⟨s, rfl⟩ := htext
    exact ⟨messages, s, rfl, hc, hbefore⟩

theorem resume {status : Status} (h : Tells elapsed log messages (.shown status)) :
    Tells elapsed log messages (.afterReport status) := by
  have he : Stage.ending? (.afterReport status) = Stage.ending? (.shown status) := by
    cases hc : status.continues <;> simp [Stage.afterReport, Stage.ending?, RunnerPhase.ending?, hc]
  constructor
  · exact h.told
  · exact h.handOvers
  · exact h.texts
  · intro _ hs
    cases hs
  · intro _ _ hs
    cases hs
  · exact fun hn => h.ongoing (he.symm.trans hn)
  · exact fun s hs => h.ended s (he.symm.trans hs)

/-- The user has been told of everything, and of the end last. -/
theorem complete {stage : Stage} {status : Status} (h : Tells elapsed log messages stage)
    (he : stage.ending? = some status) :
    log.told = messages.map (·.status) ∧ EndsWith messages status := by
  have hp : stage.pending = [] := by
    cases stage with
    | handing | rendered => cases he
    | busy | shown => rfl
  refine ⟨?_, h.ended status he⟩
  rw [h.told, hp, List.append_nil]

/-- A message after which the run does not go on can only be the last one. -/
theorem dropLast {stage : Stage} (h : Tells elapsed log messages stage) :
    ∀ m ∈ messages.dropLast, m.status.continues = true := by
  cases he : stage.ending? with
  | none => exact fun m hm => h.ongoing he m (List.dropLast_subset messages hm)
  | some status =>
    obtain ⟨before, text, rfl, -, hbefore⟩ := h.ended status he
    rw [List.dropLast_concat]
    exact hbefore

end Tells

namespace Scene

/-- The console is the one that the run began with and what the run has added to it. -/
def Tells (first : List Message) (elapsed : Nat) (log : Log) (s : Scene) : Prop :=
  ∃ messages, s.console = first ++ messages ∧ AccumulatorMachine.Tells elapsed log messages s.stage

theorem Tells.move {program : Program} {elapsed : Nat} {first : List Message} {log : Log}
    {s t : Scene} (h : s.Tells first elapsed log) (hm : Move program elapsed s t) :
    t.Tells first elapsed (log.note s t) := by
  obtain ⟨messages, hconsole, h⟩ := h
  cases hm with
  | stop => exact ⟨messages, hconsole, h.handOver rfl nofun⟩
  | proceed | stall => exact ⟨messages, hconsole, h.busy rfl⟩
  | fetch => exact ⟨messages, hconsole, (h.line _).busy rfl⟩
  | @execute m c line status m' hv =>
    cases status with
    | ok | failed => exact ⟨messages, hconsole, h.busy rfl⟩
    | _ => exact ⟨messages, hconsole, h.handOver rfl nofun⟩
  | reach => exact ⟨messages, hconsole, h.busy rfl⟩
  | @take m c address status m' ht =>
    cases status with
    | ok | failed => exact ⟨messages, hconsole, h.busy rfl⟩
    | _ => exact ⟨messages, hconsole, h.handOver rfl nofun⟩
  | @judge m c cause =>
    refine ⟨messages, hconsole, h.handOver rfl ?_⟩
    split <;> nofun
  | @print m c text m' ht =>
    obtain ⟨hclosed, rfl, rfl⟩ | ⟨text, hopen, -, rfl, rfl⟩ := Machine.requestOutput?_cases ht
    · refine ⟨messages, hconsole, ?_⟩
      simp only [Log.note, hclosed, if_true]
      exact h.lose
    · refine ⟨messages, hconsole, ?_⟩
      simp only [Log.note, hopen, Bool.false_eq_true, if_false]
      exact h.find (.inl rfl)
  | @describe m c status hne =>
    have hn : log.note ⟨m, c, .handing status⟩ ⟨m, c, .rendered status (status.describe? elapsed)⟩ =
        log := by
      cases status with
      | output => exact absurd rfl hne
      | _ => rfl
    have hok : status ≠ .ok := by
      obtain ⟨before, hbefore⟩ := h.handing status rfl
      exact (h.handOvers ⟨status, false⟩ (by simp [hbefore])).1
    obtain ⟨text, htext⟩ := Status.exists_describe? elapsed hok hne
    rw [hn, htext]
    exact ⟨messages, hconsole, h.find (.inr htext)⟩
  | append =>
    refine ⟨_, ?_, h.append⟩
    rw [← List.append_assoc, ← hconsole]
  | resume => exact ⟨messages, hconsole, h.resume⟩
  | note => exact ⟨messages, hconsole, h.busy rfl⟩
  | @clear m c report part =>
    cases part <;> exact ⟨messages, hconsole, h.busy rfl⟩
  | retire hr => cases hr <;> exact ⟨messages, hconsole, h.busy rfl⟩

end Scene

/-! ### Both sides end with the same status -/

namespace Run

theorem ending?_of_report? {r : Run} {report : Report} (h : r.report? = some report) :
    r.stage.ending? = some report.status := by
  unfold report? at h
  split at h
  · next hrunner =>
    cases h
    rw [stage_of_runner hrunner nofun]
    rfl
  · cases h

/-- The printer returns the status that has ended the run. -/
theorem Linked.ending?_of_printer {r : Run} {status : Status} (h : r.Linked)
    (hp : r.printer = .finished status) : r.stage.ending? = some status := by
  obtain ⟨shared, ⟨program, elapsed, statuses, completion, runner, printer, finisher⟩⟩ := r
  obtain rfl : printer = .finished status := hp
  have h : Links runner statuses (.finished status) := h
  cases h with
  | working hlast _ hf =>
    cases hf with
    | finished hl => simp [hl] at hlast
  | presenting _ hp | waiting _ hp => nomatch hp
  | returning _ hr hf =>
    cases hf with
    | finished hl => cases hr <;> simp [stage, Stage.ending?_shown, hl]
  | ending _ he hf =>
    cases hf with
    | finished _ => cases he <;> rfl

end Run

namespace OpenRun

theorem tells_of_logged {program : Program} {elapsed : Nat} {log : Log} {first s : OpenRun}
    (hfirst : first.Begins program elapsed) (h : Logged first log s) :
    s.run.scene.Tells first.run.console elapsed log ∧ s.run.Linked := by
  obtain ⟨hlinked, rfl, hstage⟩ := hfirst.scene
  have hstart : Scene.Tells first.run.console first.run.elapsed {} first.run.scene := by
    refine ⟨[], (List.append_nil _).symm, ?_⟩
    change AccumulatorMachine.Tells first.run.elapsed {} [] first.run.stage
    rw [hstage]
    exact .start _
  exact h.invariant hlinked hstart (fun _ _ _ hp hm => hp.move hm) (fun _ _ _ _ _ _ hp _ => hp)

/-- Whatever the order of the actions, deliveries and stops, the messages of a run are the statuses
that are handed over, in their order and without the values that a closed mailbox has kept back. When
the runner and the printer have ended, each with the status of the last message, that message is the
only one after which a run does not go on. -/
theorem messages_tell_handOvers {program : Program} {elapsed : Nat} {log : Log} {first s : OpenRun}
    (hfirst : first.Begins program elapsed) (h : Logged first log s) :
    ∃ messages, s.run.console = first.run.console ++ messages ∧
      log.told = messages.map (·.status) ++ s.run.stage.pending ∧
      (∀ h ∈ log.handOvers, h.status ≠ .ok ∧ (h.lost = true → h.status = .output)) ∧
      (∀ m ∈ messages, m.status ≠ .ok ∧
        (m.status = .output ∨ m.status.describe? elapsed = some m.text)) ∧
      (∀ m ∈ messages.dropLast, m.status.continues = true) ∧
      (∀ report, s.run.report? = some report →
        log.told = messages.map (·.status) ∧ EndsWith messages report.status) ∧
      ∀ status, s.run.printer = .finished status →
        log.told = messages.map (·.status) ∧ EndsWith messages status := by
  obtain ⟨⟨messages, hconsole, ht⟩, hlinked⟩ := tells_of_logged hfirst h
  have hok : ∀ m ∈ messages, m.status ≠ .ok := by
    intro m hm hs
    obtain hout | hdescribed := ht.texts m hm
    · cases hs.symm.trans hout
    · rw [hs] at hdescribed
      cases hdescribed
  exact ⟨messages, hconsole, ht.told, ht.handOvers, fun m hm => ⟨hok m hm, ht.texts m hm⟩, ht.dropLast,
    fun report hreport => ht.complete (Run.ending?_of_report? hreport),
    fun status hprinter => ht.complete (hlinked.ending?_of_printer hprinter)⟩

/-- A stop comes between a line that prints and the printer. -/
def keptBack : Log × OpenRun :=
  let p := play 8 ({}, start {} ["SET 1", "OUT 1", "HLT 0"] 0)
  play 64 (p.1, p.2.stop)

/-- The value is handed over, and no message shows it. -/
theorem messages_tell_handOvers_keptBack :
    keptBack.1.handOvers = [⟨.output, true⟩, ⟨.stopped, false⟩] ∧
      keptBack.2.run.console.map (·.status) = [.stopped] ∧
      EndsWith keptBack.2.run.console .stopped := by
  have hbegun : Logged (start {} ["SET 1", "OUT 1", "HLT 0"] 0) _ _ := .play 8 (p := ({}, _)) .refl
  have hlogged : Logged (start {} ["SET 1", "OUT 1", "HLT 0"] 0) keptBack.1 keptBack.2 :=
    .play 64 (p := (_, _)) hbegun.stop
  obtain ⟨messages, hconsole, -, -, -, -, -, hprinter⟩ := messages_tell_handOvers (begins_start _ _ _) hlogged
  obtain ⟨htold, hends⟩ := hprinter .stopped (by decide +kernel)
  have hstopped : keptBack.1.told = [.stopped] := by decide +kernel
  have hall : keptBack.2.run.console = messages := hconsole
  rw [hall]
  exact ⟨by decide +kernel, htold.symm.trans hstopped, hends⟩

end OpenRun

end AccumulatorMachine
