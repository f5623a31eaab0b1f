import AccumulatorMachine.Proofs.OpenRun

/-! A run never gets stuck, unless it waits for an input that somebody may still deliver. -/
namespace AccumulatorMachine
open Run

namespace OpenRun

/-- What holds in every state of an open run. -/
structure Sound (s : OpenRun) : Prop where
  linked : s.run.Linked
  signalled : s.run.Signalled
  supplied : s.run.scene.Supplied
  closed : 0 < s.stopped → s.run.machine.mailbox.closed = true ∨ s.run.scene.Cleared
  marked : s.run.machine.interrupted = true → 0 < s.stopping ∨ 0 < s.stopped

theorem sound_start (shared : Shared) (program : Program) (elapsed : Nat) :
    (start shared program elapsed).Sound where
  linked := Session.linked_accept shared program elapsed
  signalled := Session.signalled_accept shared program elapsed
  supplied := trivial
  closed := nofun
  marked := nofun

theorem Sound.act {s : OpenRun} {act : Run → Option Run} {run : Run} (h : s.Sound)
    (hact : act ∈ Run.threads) (hrun : act s.run = some run) : Sound { s with run } := by
  have ha := h.linked.advance hact hrun
  have hsig := h.signalled.advance hact hrun
  obtain ⟨hscene, -⟩ | ⟨hmove, -⟩ := ha.seen
  · have hm : run.machine = s.run.machine := congrArg Scene.machine hscene
    refine ⟨ha.linked, hsig, ?_, ?_, ?_⟩
    · exact hscene ▸ h.supplied
    · intro hs
      have := h.closed hs
      rw [← hscene, ← hm] at this
      exact this
    · intro hi
      exact h.marked (hm ▸ hi)
  · exact ⟨ha.linked, hsig, hmove.supplied, fun hs => hmove.closed (h.closed hs),
      fun hi => h.marked (hmove.interrupted hi)⟩

theorem Sound.step {s t : OpenRun} (h : s.Sound) (hst : Step s t) : t.Sound := by
  cases hst with
  | act hact hrun => exact h.act hact hrun
  | deliver text =>
    exact ⟨h.linked, h.signalled, h.supplied.onMachine rfl fun _ => .inr rfl, h.closed, h.marked⟩
  | beginStop =>
    exact ⟨h.linked, h.signalled, h.supplied.onMachine rfl id, h.closed,
      fun _ => .inl (Nat.succ_pos _)⟩
  | endStop hpos =>
    exact ⟨h.linked, h.signalled, h.supplied.onMachine rfl fun _ => .inl rfl,
      fun _ => .inl rfl, fun _ => .inr (Nat.succ_pos _)⟩

theorem sound_of_reachable {shared : Shared} {program : Program} {elapsed : Nat} {s : OpenRun}
    (h : Reachable shared program elapsed s) : s.Sound := by
  induction h with
  | refl => exact sound_start shared program elapsed
  | tail _ hst ih => exact ih.step hst

end OpenRun

/-! ### Who can go on -/

namespace Run

/-- The runner waits for an input, for which there is a cell, and the mailbox is empty and open. -/
def AwaitsInput (r : Run) : Prop :=
  ∃ address, r.runner = .taking address ∧ r.machine.HasCell address ∧
    r.machine.mailbox.value = none ∧ r.machine.mailbox.closed = false

/-- Some thread of the run can go on. -/
def CanStep (r : Run) : Prop := ∃ act ∈ threads, (act r).isSome = true

theorem canStep_runner {r s : Run} (h : r.runnerStep? = some s) : r.CanStep :=
  ⟨runnerStep?, by simp [threads], by simp [h]⟩

theorem canStep_printer {r s : Run} (h : r.printerStep? = some s) : r.CanStep :=
  ⟨printerStep?, by simp [threads], by simp [h]⟩

theorem canStep_finisher {r s : Run} (h : r.finisherStep? = some s) : r.CanStep :=
  ⟨finisherStep?, by simp [threads], by simp [h]⟩

/-- A printer that has released the runner goes on, except to wait for a status. -/
theorem Freed.canStep {r : Run} {g : Nat} {sender : Sender Status} {receiver : Receiver Status}
    {last : Status} (hst : r.statuses = ⟨.pair 0 g, sender, receiver⟩)
    (hf : Freed g last receiver r.printer) :
    r.CanStep ∨ receiver = .receiving ∧ r.printer = .receiving ∨ r.printer = .finished last := by
  obtain ⟨shared, ⟨program, elapsed, statuses, completion, runner, printer, finisher⟩⟩ := r
  obtain rfl : statuses = ⟨.pair 0 g, sender, receiver⟩ := hst
  cases hf with
  | waking hlt =>
    left
    apply canStep_printer
    simp [printerStep?, Handoff.receiverStep?, Barrier.verdict?_pair_of_lt 0 hlt]
    rfl
  | receiving _ => exact .inr (.inl ⟨rfl, rfl⟩)
  | finished _ => exact .inr (.inr rfl)
  | _ =>
    left
    apply canStep_printer
    simp [printerStep?, Handoff.receiverStep?]
    rfl

/-- A runner at work goes on, except to wait for an input or for the printer. -/
theorem Works.canStep {r : Run} {g : Nat} {receiver : Receiver Status}
    {sender : Sender Status} (hst : r.statuses = ⟨.pair 0 g, sender, receiver⟩)
    (hw : Works r.runner sender) (hsup : r.scene.Supplied) :
    r.CanStep ∨ r.AwaitsInput ∨ ∃ status, sender = .offering status := by
  obtain ⟨⟨m, c, active, callbacks⟩, ⟨program, elapsed, statuses, completion, runner, printer,
    finisher⟩⟩ := r
  obtain rfl : statuses = ⟨.pair 0 g, sender, receiver⟩ := hst
  cases hw with
  | testing =>
    left
    cases hi : m.interrupted <;> exact canStep_runner (by simp [runnerStep?, hi]; rfl)
  | fetching =>
    left
    cases hl : program.lineAt? m.pc <;>
      exact canStep_runner (by simp [runnerStep?, line?, hl]; rfl)
  | executing line => exact .inl (canStep_runner rfl)
  | taking address =>
    cases ht : m.takeInput? address with
    | none =>
      obtain ⟨hopen, hempty⟩ := (m.takeInput?_eq_none_iff address).mp ht
      exact .inr (.inl ⟨address, rfl, hsup, hempty, hopen⟩)
    | some p => exact .inl (canStep_runner (by simp [runnerStep?, ht]; rfl))
  | judging cause => exact .inl (canStep_runner rfl)
  | offering _ => exact .inr (.inr ⟨_, rfl⟩)

/-- A printer that has a status finishes with it, for a value to print is in the mailbox. -/
theorem Presents.canStep {r : Run} {g n : Nat} {sender : Sender Status} {receiver : Receiver Status}
    {status : Status} (hrun : r.runner = .reporting status)
    (hst : r.statuses = ⟨.pair n g, sender, receiver⟩)
    (hn : n = 0 ∧ sender = .pacing ∨ n = 1 ∧ sender = .paused g)
    (hp : Presents status receiver r.printer) (hsup : r.scene.Supplied) : r.CanStep := by
  obtain ⟨⟨m, c, active, callbacks⟩, ⟨program, elapsed, statuses, completion, runner, printer,
    finisher⟩⟩ := r
  obtain rfl : runner = .reporting status := hrun
  obtain rfl : statuses = ⟨.pair n g, sender, receiver⟩ := hst
  cases hp with
  | taken => exact canStep_printer rfl
  | rendering =>
    have hvalue : status = .output → m.requestOutput? ≠ none := by
      rintro rfl hnone
      rw [Machine.requestOutput?_eq_none_iff] at hnone
      have hsup : m.mailbox.closed = true ∨ m.mailbox.value.isSome = true := by
        obtain ⟨-, rfl⟩ | ⟨-, rfl⟩ := hn <;> exact hsup
      simp [hnone] at hsup
    cases status with
    | output =>
      obtain ⟨p, hp⟩ := Option.ne_none_iff_exists'.mp (hvalue rfl)
      exact canStep_printer (by simp [printerStep?, render?, hp]; rfl)
    | _ => exact canStep_printer rfl
  | appending text => exact canStep_printer rfl
  | releasing =>
    obtain ⟨rfl, rfl⟩ | ⟨rfl, rfl⟩ := hn <;>
      exact canStep_printer (by simp [printerStep?, Handoff.receiverStep?]; rfl)

theorem FinisherMet.canStep {r : Run} (hc : r.completion = .pair 0 1)
    (hf : FinisherMet r.finisher) : r.CanStep ∨ ∃ verdict, r.finisher = .finished verdict := by
  obtain ⟨shared, ⟨program, elapsed, statuses, completion, runner, printer, finisher⟩⟩ := r
  obtain rfl : completion = .pair 0 1 := hc
  cases hf with
  | waking => exact .inl (canStep_finisher rfl)
  | freeing => exact .inl (canStep_finisher rfl)
  | calling => exact .inl (canStep_finisher rfl)
  | finished => exact .inr ⟨_, rfl⟩

/-- A runner that cleans up goes on, if need be after the finisher. -/
theorem Ends.canStep {r : Run} {g : Nat} {receiver : Receiver Status} {sender : Sender Status}
    {last : Status} (hst : r.statuses = ⟨.pair 0 g, sender, receiver⟩)
    (he : Ends last r.runner sender) (hsig : r.Signalled) :
    r.CanStep ∨ (∃ report, r.runner = .finished report) ∧ ∃ verdict, r.finisher = .finished verdict := by
  obtain ⟨⟨m, c, active, callbacks⟩, ⟨program, elapsed, statuses, completion, runner, printer,
    finisher⟩⟩ := r
  obtain rfl : statuses = ⟨.pair 0 g, sender, receiver⟩ := hst
  cases he with
  | asleep snapshot h =>
    left
    cases hsig with
    | before hq | observed hq => simp [hasSignalled] at hq
    | signalled _ => exact canStep_finisher rfl
    | met hr hf =>
      cases hr
      exact canStep_runner rfl
  | finished snapshot =>
    cases hsig with
    | before hq | observed hq => simp [hasSignalled] at hq
    | met hr hf => exact (FinisherMet.canStep rfl hf).imp_right fun hv => ⟨⟨_, rfl⟩, hv⟩
  | _ => exact .inl (canStep_runner rfl)

theorem Linked.canStep {r : Run} (h : r.Linked) (hsig : r.Signalled) (hsup : r.scene.Supplied) :
    r.isOver = true ∨ r.CanStep ∨ r.AwaitsInput := by
  have hfreed {g sender receiver last} (hst : r.statuses = ⟨.pair 0 g, sender, receiver⟩)
      (hf : Freed g last receiver r.printer) := hf.canStep hst
  obtain ⟨shared, ⟨program, elapsed, statuses, completion, runner, printer, finisher⟩⟩ := r
  have h : Links runner statuses printer := h
  cases h with
  | @working g _ sender receiver _ last hlast hw hf =>
    obtain hstep | hawait | ⟨status, rfl⟩ := hw.canStep rfl hsup
    · exact .inr (.inl hstep)
    · exact .inr (.inr hawait)
    · -- an offer waits for the printer only
      obtain hstep | ⟨rfl, rfl⟩ | rfl := hfreed rfl hf
      · exact .inr (.inl hstep)
      · exact .inr (.inl (canStep_printer rfl))
      · cases hf with
        | finished hl => simp [hl] at hlast
  | presenting _ hp => exact .inr (.inl (hp.canStep rfl rfl (.inl ⟨rfl, rfl⟩) hsup))
  | waiting _ hp => exact .inr (.inl (hp.canStep rfl rfl (.inr ⟨rfl, rfl⟩) hsup))
  | awaited _ => exact .inr (.inl (canStep_runner (by simp [runnerStep?, Handoff.senderStep?]; rfl)))
  | returning _ hr _ =>
    right
    left
    cases hr with
    | waking hlt =>
      exact canStep_runner (by simp [runnerStep?, Handoff.senderStep?,
        Barrier.verdict?_pair_of_lt 0 hlt]; rfl)
    | returned => exact canStep_runner rfl
  | ending hlast he hf =>
    obtain hstep | ⟨⟨report, rfl⟩, ⟨verdict, rfl⟩⟩ := he.canStep rfl hsig
    · exact .inr (.inl hstep)
    · obtain hstep | ⟨rfl, rfl⟩ | rfl := hfreed rfl hf
      · exact .inr (.inl hstep)
      · cases hf with
        | receiving hl => simp [hl] at hlast
      · exact .inl rfl

end Run

namespace OpenRun

theorem Sound.canStep {s : OpenRun} (h : s.Sound) :
    s.run.isOver = true ∨ s.run.CanStep ∨
      s.run.AwaitsInput ∧ s.stopped = 0 ∧ (s.run.machine.interrupted = true → 0 < s.stopping) := by
  obtain hover | hstep | hawait := h.linked.canStep h.signalled h.supplied
  · exact .inl hover
  · exact .inr (.inl hstep)
  · have hstopped : s.stopped = 0 := by
      obtain ⟨address, hrun, -, -, hopen⟩ := hawait
      obtain hnone | hpos := Nat.eq_zero_or_pos s.stopped
      · exact hnone
      obtain hclosed | hcleared := h.closed hpos
      · simp [hopen] at hclosed
      · simp [Scene.Cleared, Run.scene, Run.stage, hrun] at hcleared
    refine .inr (.inr ⟨hawait, hstopped, fun hi => ?_⟩)
    have := h.marked hi
    omega

/-- Whatever the order of the actions, deliveries and stops, a run that is not over can go on, unless
it waits for an input; and then no stop is over, and one that has begun is about to release it. -/
theorem never_stuck {shared : Shared} {program : Program} {elapsed : Nat} {s : OpenRun}
    (h : Reachable shared program elapsed s) :
    (s.run.isOver = true ∨ s.run.CanStep ∨
      s.run.AwaitsInput ∧ s.stopped = 0 ∧ (s.run.machine.interrupted = true → 0 < s.stopping)) ∧
      (0 < s.stopped → s.run.isOver = true ∨ s.run.CanStep) := by
  have hs := (sound_of_reachable h).canStep
  refine ⟨hs, fun hstopped => ?_⟩
  obtain hover | hstep | ⟨-, hnone, -⟩ := hs
  · exact .inl hover
  · exact .inr hstep
  · omega

/-- A run that waits for an input. -/
def unanswered : OpenRun :=
  { run := Schedule.settle (Schedule.first? Run.threads) 64 (Session.accept {} ["SET 1", "INP 1"] 0) }

theorem unanswered_not_stuck : unanswered.run.runner = .taking 1 ∧
    (unanswered.run.isOver = true ∨ unanswered.run.CanStep ∨ unanswered.run.AwaitsInput ∧
      unanswered.stopped = 0 ∧ (unanswered.run.machine.interrupted = true → 0 < unanswered.stopping)) :=
  ⟨by decide +kernel, (never_stuck (s := unanswered)
    (reachable_of_threads (Schedule.reachable_settle _ _ .refl))).1⟩

end OpenRun

end AccumulatorMachine
