import AccumulatorMachine.Proofs.Hosted.Sound
import AccumulatorMachine.Proofs.OpenRun.Progress
import AccumulatorMachine.Proofs.Schedule.Course

/-! Whatever the order of its actions, a run with a front end comes to what the stepper comes to. -/
namespace AccumulatorMachine

namespace Paired
variable {program : Program} {d : Driven} {s : Scene} {front : FrontEnd}

theorem events (h : Paired program d s front) :
    s.console.filterMap Message.event? <+: d.events := by
  cases h with
  | calm _ _ he | printing _ he | answered _ _ _ he | refused _ _ _ _ he | left _ _ _ _ he =>
    exact ⟨_, he.filterMap⟩
  | asking _ _ _ he | asked _ _ _ he =>
    rw [Driven.events_answer]
    exact ⟨_, he.filterMap⟩
  | ended hc _ _ hs =>
    cases hs with
    | judging _ ht | handing ht | rendered _ ht => exact ⟨_, ht.filterMap⟩
    | shown ht | noting ht => exact ht.complete hc ▸ List.prefix_rfl
  | reported hc _ _ ht => exact ht.complete hc ▸ List.prefix_rfl

theorem of_finished (h : Paired program d s front) {report : Report}
    (hstage : s.stage = .busy (.finished report)) :
    d.stepper.finished = some report.status ∧ report.snapshot = d.stepper.machine.snapshot ∧
      ToldAll s.console d.events report.status := by
  cases h with
  | reported hc hf hr ht =>
    cases hstage
    cases hr
    exact ⟨hf, rfl, ht⟩
  | calm hs | asking hs | asked hs | answered hs | refused hs | left hs | ended _ _ _ hs =>
    cases hstage
    cases hs
  | printing => cases hstage

theorem continues (h : Paired program d s front) {status : Status}
    (hf : d.stepper.finished = some status) : status.continues = false := by
  cases h with
  | ended hc hf' | reported hc hf' =>
    cases hf.symm.trans hf'
    exact hc
  | @asking _ _ inputs | @asked _ _ inputs => cases inputs <;> cases hf
  | _ => cases hf

end Paired

namespace Hosted
variable {program : Program} {d : Driven} {h : Hosted}

/-! ### Somebody can go on -/

/-- Whoever has asked for an input will get an answer. -/
theorem Sound.attended (hs : Sound program d h) (hw : h.run.AwaitsInput) :
    h.respond? ≠ none ∨ h.close? ≠ none := by
  obtain ⟨run, front⟩ := h
  obtain ⟨address, hrun, -, hempty, hopen⟩ := hw
  have hp := hs.paired
  have hstage : run.stage = .busy (.taking address) := Run.stage_of_runner hrun nofun
  simp only [Run.scene, hstage] at hp
  generalize hm : run.machine = m at hp hempty hopen
  generalize hc : run.console = c at hp
  cases hp with
  | asked _ hu =>
    left
    obtain ⟨message, hmessage⟩ := hu.exists_message
    simp [respond?, hc, hmessage]
  | answered => cases hempty
  | refused _ _ _ hclosing =>
    right
    obtain hclosed | hpos := hclosing
    · cases hopen.symm.trans hclosed
    · simp [close?, hpos]
  | calm hst | asking hst | left hst | ended _ _ _ hst | reported _ _ hst => cases hst

theorem Sound.canStep (hs : Sound program d h) :
    h.run.isOver = true ∨ ∃ act ∈ threads false, act h ≠ none := by
  obtain hover | ⟨act, hact, hsome⟩ | hawait := hs.linked.canStep hs.signalled hs.supplied
  · exact .inl hover
  · refine .inr ⟨onRun act, ?_, ?_⟩
    · exact List.mem_append_right _ (List.mem_map_of_mem hact)
    · obtain ⟨run, hrun⟩ := Option.isSome_iff_exists.mp hsome
      simp [onRun, hrun]
  · right
    obtain hrespond | hclose := hs.attended hawait
    · exact ⟨respond?, by simp [threads], hrespond⟩
    · exact ⟨close?, by simp [threads], hclose⟩

theorem finished_of_isOver {r : Run} (h : r.isOver = true) :
    ∃ report, r.runner = .finished report := by
  unfold Run.isOver at h
  split at h
  · next report _ _ hr _ _ => exact ⟨_, hr⟩
  · cases h

theorem Sound.of_report (hs : Sound program d h) {report : Report}
    (hr : h.run.runner = .finished report) :
    d.stepper.finished = some report.status ∧ report.snapshot = d.stepper.machine.snapshot ∧
      ToldAll h.run.console d.events report.status :=
  hs.paired.of_finished (Run.stage_of_runner hr nofun)

/-! ### The stepper is followed -/

/-- The run has come to the next step of the stepper. -/
def Turned (program : Program) (d : Driven) (h : Hosted) : Prop :=
  ∃ d', d.watchedTurn? = some d' ∧ Sound program d' h ∧
    (Told h.run.console [] d.events ∨ d.stalls = true ∧ d'.events = d.events)

/-- The run goes round outside the program. -/
structure Drifts (program : Program) (d : Driven) (h : Hosted) : Prop where
  sound : Sound program d h
  stalls : d.stalls = true
  empty : h.run.machine.mailbox.value = none

theorem Drifts.step {h' : Hosted} (hd : Drifts program d h) {act : Hosted → Option Hosted}
    (hact : act ∈ threads false) (hrun : act h = some h') :
    Turned program d h' ∨ Drifts program d h' := by
  cases hd.sound.progress hact hrun with
  | turn _ ht he hs => exact .inl ⟨_, ht, hs, he⟩
  | stay hs hempty _ => exact .inr ⟨hs, hd.stalls, hempty hd.stalls hd.empty⟩

theorem Drifts.watch {h' : Hosted} (hd : Drifts program d h) (hrun : h.watch? false = some h') :
    Turned program d h' := by
  cases hd.sound.watch hrun with
  | turn _ ht he hs => exact ⟨_, ht, hs, he⟩
  | stay hs _ _ =>
    have hleft : h'.front.left = true := by
      simp only [watch?, Option.ite_none_right_eq_some, Option.some.injEq] at hrun
      exact hrun.2 ▸ rfl
    cases hleft.symm.trans (hs.paired.of_stalls hd.stalls).2.1

theorem Drifts.watches (hd : Drifts program d h) : h.watch? false ≠ none := by
  obtain ⟨hl, hleft, -⟩ := hd.sound.paired.of_stalls hd.stalls
  have hl : h.run.line? = none := by
    unfold Run.line?
    rw [hd.sound.runs]
    exact hl
  simp [watch?, hleft, hl, Mailbox.isEmpty, hd.empty]

variable {start : Hosted} (c : Schedule.Course (threads false) start)

theorem eventually_turned (hf : d.stepper.finished = none) {n : Nat}
    (hn : Sound program d (c.state n)) : ∃ m, n ≤ m ∧ Turned program d (c.state m) := by
  have hnear : ∃ m, n ≤ m ∧ (Turned program d (c.state m) ∨ Drifts program d (c.state m)) := by
    refine c.eventually_of_rank (P := Sound program d)
      (Q := fun h => Turned program d h ∨ Drifts program d h) rank ?_ ?_ hn
    · intro h hs
      obtain hover | hlive := hs.canStep
      · obtain ⟨report, hr⟩ := finished_of_isOver hover
        cases hf.symm.trans (hs.of_report hr).1
      · exact .inr hlive
    · intro act hact h h' hs hrun
      cases hs.progress hact hrun with
      | turn _ ht he hs' => exact .inl (.inl ⟨_, ht, hs', he⟩)
      | stay hs' hempty hrank =>
        obtain hlt | ⟨hst, hnone⟩ := hrank
        · exact .inr ⟨hs', hlt⟩
        · exact .inl (.inr ⟨hs', hst, hempty hst hnone⟩)
  obtain ⟨m, hm, ht | hd⟩ := hnear
  · exact ⟨m, hm, ht⟩
  · have hmem : watch? false ∈ threads false := by simp [threads]
    obtain ⟨k, hk, ht⟩ := c.eventually_of_helper (P := Drifts program d)
      (Q := Turned program d) hmem
      (fun _ hd => hd.watches) (fun _ _ hd hrun => hd.watch hrun)
      (fun _ hact _ _ hd hrun => hd.step hact hrun) hd
    exact ⟨k, by omega, ht⟩

theorem eventually_over {status : Status} (hf : d.stepper.finished = some status) {n : Nat}
    (hn : Sound program d (c.state n)) :
    ∃ m, n ≤ m ∧ (c.state m).run.isOver = true ∧ Sound program d (c.state m) := by
  refine c.eventually_of_rank (P := Sound program d)
    (Q := fun h => h.run.isOver = true ∧ Sound program d h) rank ?_ ?_ hn
  · intro h hs
    obtain hover | hlive := hs.canStep
    · exact .inl ⟨hover, hs⟩
    · exact .inr hlive
  · intro act hact h h' hs hrun
    cases hs.progress hact hrun with
    | turn hnone => cases hnone.symm.trans hf
    | stay hs' _ hrank =>
      obtain hlt | ⟨hst, -⟩ := hrank
      · exact .inr ⟨hs', hlt⟩
      · simp [Driven.stalls, hf] at hst

/-- What the stepper has told is shown in the end. -/
theorem eventually_told {n : Nat} (hn : Sound program d (c.state n)) :
    ∃ m, n ≤ m ∧ d.events <+: (c.state m).events := by
  cases hf : d.stepper.finished with
  | some status =>
    obtain ⟨m, hm, hover, hs⟩ := eventually_over c hf hn
    obtain ⟨report, hr⟩ := finished_of_isOver hover
    obtain ⟨hstatus, -, ht⟩ := hs.of_report hr
    have hevents : (c.state m).events = d.events := ht.complete (hs.paired.continues hstatus)
    exact ⟨m, hm, hevents ▸ List.prefix_rfl⟩
  | none =>
    obtain ⟨m, hm, d', ht, hs, he | ⟨hst, he⟩⟩ := eventually_turned c hf hn
    · have hevents : (c.state m).events = d.events := he.complete
      exact ⟨m, hm, hevents ▸ List.prefix_rfl⟩
    · -- the user has stopped the stepper, which takes the next step by itself
      rw [Driven.watchedTurn?_of_stalls hst, Option.some.injEq] at ht
      subst ht
      have hf' : d.stepper.stop.finished = none := hf
      obtain ⟨k, hk, _, -, -, he' | ⟨hst', -⟩⟩ :=
        eventually_turned (d := { d with stepper := d.stepper.stop }) c hf' hs
      · have hevents : (c.state k).events = d.events := he'.complete
        exact ⟨k, by omega, hevents ▸ List.prefix_rfl⟩
      · simp [Driven.stalls, Stepper.stop, Machine.interrupt, Machine.markInterrupted,
          Machine.closeMailbox] at hst'

theorem exists_sound {shared : Shared} {text : String} {inputs : List String} {elapsed : Nat}
    (hr : Schedule.Reachable (threads false) (Hosted.start shared text inputs elapsed) h) :
    ∃ n d, (Driven.ofText text inputs).watchedTurns? n = some d ∧
      Sound (Program.ofText text) d h := by
  induction hr with
  | refl => exact ⟨0, _, rfl, sound_start shared text inputs elapsed⟩
  | step _ hact hrun ih =>
    obtain ⟨n, d, hd, hs⟩ := ih
    cases hs.progress hact hrun with
    | turn _ ht _ hs' => exact ⟨n + 1, _, Driven.watchedTurns?_succ hd ht, hs'⟩
    | stay hs' _ _ => exact ⟨n, d, hd, hs'⟩

/-- The run comes to every step of the stepper. -/
theorem exists_caughtUp {shared : Shared} {text : String} {inputs : List String} {elapsed : Nat}
    (c : Schedule.Course (threads false) (Hosted.start shared text inputs elapsed)) (n : Nat) :
    ∃ m d, (Driven.ofText text inputs).watchedTurns? n = some d ∧
      Sound (Program.ofText text) d (c.state m) := by
  induction n with
  | zero =>
    refine ⟨0, _, rfl, ?_⟩
    rw [c.begins]
    exact sound_start shared text inputs elapsed
  | succ n ih =>
    obtain ⟨m, d, hd, hs⟩ := ih
    cases hf : d.stepper.finished with
    | some status =>
      have ht := Driven.watchedTurn?_of_finished hf (hs.paired.continues hf)
      exact ⟨m, d, Driven.watchedTurns?_succ hd ht, hs⟩
    | none =>
      obtain ⟨k, -, d', ht, hs', -⟩ := eventually_turned c hf hs
      exact ⟨k, d', Driven.watchedTurns?_succ hd ht, hs'⟩

/-- However the threads of a run and its front end take turns, the user sees a beginning of what the
stepper tells, and a report agrees with the end of the stepper. If no thread is kept waiting for
ever, the run shows all that the stepper tells and ends if the stepper does. -/
theorem refines_stepper (shared : Shared) (text : String) (inputs : List String) (elapsed : Nat) :
    (∀ h, Schedule.Reachable (threads false) (Hosted.start shared text inputs elapsed) h →
      ∃ n d, (Driven.ofText text inputs).watchedTurns? n = some d ∧ h.events <+: d.events ∧
        ∀ report, h.run.report? = some report →
          d.stepper.finished = some report.status ∧
          report.snapshot = d.stepper.machine.snapshot ∧
          ToldAll h.run.console d.events report.status) ∧
    ∀ (c : Schedule.Course (threads false) (Hosted.start shared text inputs elapsed)) (n : Nat),
      ∃ m d, (Driven.ofText text inputs).watchedTurns? n = some d ∧
        d.events <+: (c.state m).events ∧
        ∀ status, d.stepper.finished = some status →
          (c.state m).run.isOver = true ∧
          (c.state m).run.report? = some ⟨status, d.stepper.machine.snapshot⟩ := by
  constructor
  · intro h hr
    obtain ⟨n, d, hd, hs⟩ := exists_sound hr
    refine ⟨n, d, hd, hs.paired.events, fun report hreport => ?_⟩
    unfold Run.report? at hreport
    split at hreport
    · next hrunner =>
      cases hreport
      exact hs.of_report hrunner
    · cases hreport
  · intro c n
    obtain ⟨m, d, hd, hs⟩ := exists_caughtUp c n
    cases hf : d.stepper.finished with
    | none =>
      obtain ⟨k, -, htold⟩ := eventually_told c hs
      refine ⟨k, d, hd, htold, fun _ h => ?_⟩
      cases hf.symm.trans h
    | some status =>
      obtain ⟨k, -, hover, hs⟩ := eventually_over c hf hs
      obtain ⟨report, hr⟩ := finished_of_isOver hover
      obtain ⟨hstatus, hsnapshot, ht⟩ := hs.of_report hr
      have hevents : (c.state k).events = d.events := ht.complete (hs.paired.continues hstatus)
      cases hf.symm.trans hstatus
      refine ⟨k, d, hd, hevents ▸ List.prefix_rfl, fun _ h => ⟨hover, ?_⟩⟩
      cases hf.symm.trans h
      rw [← hsnapshot]
      simp [Run.report?, hr]

/-- A run that echoes an input and leaves its program. -/
def echoed : Hosted :=
  Schedule.settle (Schedule.first? (threads false)) 300
    (Hosted.start {} "SET 1\nINP 1\nOUT 1" ["5"] 0)

theorem refines_stepper_echoed :
    echoed.events = [.asked, .printed "5"] ∧
      ∃ n d, (Driven.ofText "SET 1\nINP 1\nOUT 1" ["5"]).watchedTurns? n = some d ∧
        ToldAll echoed.run.console d.events .stopped ∧ d.stepper.finished = some .stopped := by
  have hreport : echoed.run.report? = some ⟨.stopped, ⟨3, some [0, 5], true, false⟩⟩ := by
    decide +kernel
  obtain ⟨n, d, hd, -, hall⟩ := (refines_stepper {} "SET 1\nINP 1\nOUT 1" ["5"] 0).1 echoed
    (Schedule.reachable_settle _ _ .refl)
  obtain ⟨hfinished, -, htold⟩ := hall _ hreport
  exact ⟨by decide +kernel, n, d, hd, htold, hfinished⟩

/-- A front end that stops the run as soon as the program has been left can come before the printer,
which then has nothing to show for the last output instruction. -/
theorem hasty_front_end_loses_output :
    ¬ ∀ h, Schedule.Reachable (threads true) (Hosted.start {} "SET 1\nOUT 1" [] 0) h →
      ∀ report, h.run.report? = some report →
        ∃ n d, (Driven.ofText "SET 1\nOUT 1" []).watchedTurns? n = some d ∧
          d.stepper.finished = some report.status ∧ h.events = d.events := by
  intro hall
  have hreport : (Schedule.settle (Schedule.first? (threads true)) 300
      (Hosted.start {} "SET 1\nOUT 1" [] 0)).run.report? =
        some ⟨.stopped, ⟨2, some [0, 0], true, false⟩⟩ := by
    decide +kernel
  have hnothing : (Schedule.settle (Schedule.first? (threads true)) 300
      (Hosted.start {} "SET 1\nOUT 1" [] 0)).events = [] := by
    decide +kernel
  obtain ⟨n, d, hd, hfinished, hevents⟩ :=
    hall _ (Schedule.reachable_settle _ _ .refl) _ hreport
  have hbefore : ∀ k < 4, ((Driven.ofText "SET 1\nOUT 1" []).watchedTurns? k).all
      (·.stepper.finished.isNone) = true := by
    decide +kernel
  have hend : ((Driven.ofText "SET 1\nOUT 1" []).watchedTurns? 4).map
      (fun d => (d.stepper.finished, d.events)) = some (some .stopped, [.printed "0"]) := by
    decide +kernel
  obtain hlt | hle := Nat.lt_or_ge n 4
  · have := hbefore n hlt
    simp [hd, hfinished] at this
  · obtain ⟨d₄, hd₄, heq⟩ := Option.map_eq_some_iff.mp hend
    simp only [Prod.mk.injEq] at heq
    cases (Driven.watchedTurns?_of_finished hle hd₄ heq.1 rfl).symm.trans hd
    cases (hnothing.symm.trans hevents).trans heq.2

end Hosted

end AccumulatorMachine
